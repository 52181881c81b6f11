import RowBind.Proofs.Cursor.Holding
import RowBind.Proofs.Naming.Answers
import RowBind.Proofs.Route.Filling
import RowBind.Reader.Calls

/-!
# Rows that suit a destination

A result suits a destination if its columns can be routed to it: by field, every column has
a leaf that answers to its name, unless columns may be dropped; as a whole, there is one
column and the destination takes its value.  As long as a result suits, every row is read
alike: the cursor is asked for it through the slots of the destination, and what the slots
hold then is put back.

The routes of a reader are those of the layout it reads.  They are found with the first row
that is read by field, and as long as the layout stays, every later row finds the same.

Main statements: `RoutedFor.after`, the routes of a reader are those of its layout however
it was called; `RoutedFor.readRow_eq`, how a row that suits is read; and
`RoutedFor.readRow_of_writes`, what becomes of a row that the cursor writes.
-/

namespace RowBind

/-- The routes of named columns to the leaves of a layout. -/
def Layout.routes (layout : Layout) (rule : NameRule) (columns : List String) : Routes :=
  columns.map fun column => ((NameTable.ofLayout rule layout).find? column).map (·.slot)

/-- The routes that a naming finds are those of the layout, whatever was named before. -/
theorem Naming.routes_fst (naming : Naming) (key : TypeKey) (columns : List String) :
    (naming.routes key columns).1 = key.layout.routes naming.rule columns := by
  simp only [Naming.routes, Naming.table_fst, Layout.routes]

/-! ## Destinations -/

namespace Destination

variable {τ : Type} [ColumnFamily τ]

/-- The slots through which a row is read. -/
def slotsFor (byField : Bool) (rule : NameRule) (columns : List String) :
    Destination τ → List (Slot τ)
  | record info fields =>
    if byField then
      (claims fields.cells.length (fields.layout.routes rule columns)).map (slotOf fields.cells)
    else [.field (record info fields)]
  | column cell => [.field (column cell)]

/-- The destination with what the slots hold. -/
def ofSlots (byField : Bool) (rule : NameRule) (columns : List String) (slots : List (Slot τ)) :
    Destination τ → Destination τ
  | record info fields =>
    if byField then
      .record info (fields.refill
        (putBack (claims fields.cells.length (fields.layout.routes rule columns)) slots
          fields.cells))
    else
      match slots with
      | [.field dest] => dest
      | _ => record info fields
  | column cell =>
    match slots with
    | [.field dest] => dest
    | _ => column cell

/-- Takes a row: whether that went well, and the destination then. -/
def takeRow (byField : Bool) (rule : NameRule) (columns : List String) (dest : Destination τ)
    (row : Row) : Outcome Unit × Destination τ :=
  let filled := fillRow (dest.slotsFor byField rule columns) row
  (filled.1, dest.ofSlots byField rule columns filled.2)

/-- The columns of a result can be routed to the destination. -/
def Suits (byField : Bool) (rule : NameRule) (columns : List String) (dropUnmatched : Bool)
    (dest : Destination τ) : Prop :=
  if byField then
    ∃ info fields, dest = .record info fields ∧
      (dropUnmatched = true ∨ ∀ name ∈ columns, ∃ k, fields.Answers rule name k)
  else columns.length ≤ 1 ∧ dest.takesValue = true

/-- A record takes a row by field as its leaves do. -/
theorem takeRow_record (rule : NameRule) (columns : List String) (info : RecordInfo τ)
    (fields : Record τ) (row : Row) :
    (record info fields).takeRow true rule columns row =
      ((fields.takeRow (fields.layout.routes rule columns) row).1,
        .record info (fields.takeRow (fields.layout.routes rule columns) row).2) := rfl

end Destination

/-- No route is missing exactly if every column has a leaf that answers to its name. -/
theorem firstMissing?_eq_none_iff {τ : Type} [ColumnFamily τ] {rule : NameRule}
    {columns : List String} {fields : Record τ} :
    (fields.layout.routes rule columns).firstMissing? = none ↔
      ∀ name ∈ columns, ∃ k, fields.Answers rule name k := by
  rw [Routes.firstMissing?, List.findIdx?_eq_none_iff]
  constructor
  · intro hnone name hname
    have hroute := hnone _ (List.mem_map_of_mem hname)
    have hsome : (((NameTable.ofLayout rule fields.layout).find? name).map (·.slot)).isSome := by
      simpa using hroute
    obtain ⟨k, hk⟩ := Option.isSome_iff_exists.mp hsome
    exact ⟨k, NameTable.find?_slot_eq_some_iff.mp hk⟩
  · intro hanswers route hroute
    obtain ⟨name, hname, rfl⟩ := List.mem_map.mp hroute
    obtain ⟨k, hk⟩ := hanswers name hname
    rw [NameTable.find?_slot_eq_some_iff.mpr hk]
    rfl

namespace Reader

variable {σ τ : Type} [ColumnFamily τ] [Cursor σ]

/-! ## The routes of a reader -/

/-- What does not change about a reader while it reads by field into records of one layout
only. -/
structure RoutedFor (rule : NameRule) (columns : List String) (dropUnmatched : Bool)
    (layout : Layout) (reader : Reader σ) : Prop where
  rule_eq : reader.naming.rule = rule
  columns_eq : Cursor.columnNames reader.cursor = columns
  dropUnmatched_eq : reader.dropUnmatched = dropUnmatched
  routes_eq : ∀ routes, reader.phase = .reading (some routes) →
    routes = layout.routes rule columns

variable {rule : NameRule} {columns : List String} {dropUnmatched : Bool} {layout : Layout}

theorem RoutedFor.fresh (cursor : σ) (naming : Naming) (dropUnmatched force : Bool)
    (layout : Layout) :
    (Reader.fresh cursor naming dropUnmatched force).RoutedFor naming.rule
      (Cursor.columnNames cursor) dropUnmatched layout :=
  ⟨rfl, rfl, rfl, by simp [Reader.fresh]⟩

theorem routedFor_settled {reader : Reader σ}
    (h : reader.RoutedFor rule columns dropUnmatched layout) (outcome : Outcome Bool)
    (dest : Destination τ) (log : Log) :
    (settled reader outcome dest log).reader.RoutedFor rule columns dropUnmatched layout := by
  unfold settled
  split
  · exact ⟨h.rule_eq, h.columns_eq, h.dropUnmatched_eq, h.routes_eq⟩
  · exact h
  · exact ⟨h.rule_eq, h.columns_eq, h.dropUnmatched_eq, by simp [nothing, fail]⟩

/-- A fetch does not change the columns. -/
theorem columnNames_fetch (cursor : σ) (slots : List (Slot τ)) :
    Cursor.columnNames (Cursor.fetch cursor slots).cursor = Cursor.columnNames cursor := by
  simp only [Cursor.columnNames, Cursor.columns_fetch]

/-- A step keeps the routes, or finds them as the layout says. -/
theorem RoutedFor.of_step {byField : Bool} {reader : Reader σ} {dest : Destination τ}
    {reading : Reading σ τ} (h : reader.RoutedFor rule columns dropUnmatched layout)
    (hlayout : byField = true → dest.layout = layout)
    (hstep : Step byField reader dest reading) :
    reading.reader.RoutedFor rule columns dropUnmatched layout := by
  cases hstep with
  | idle => exact h
  | refused hstart hrule failure log =>
      exact ⟨hrule.trans h.rule_eq, h.columns_eq, h.dropUnmatched_eq, by simp [nothing, fail]⟩
  | fetched hstart hrule hroutes slots hkept log =>
      apply routedFor_settled
      refine ⟨hrule.trans h.rule_eq, ?_, h.dropUnmatched_eq, ?_⟩
      · exact (columnNames_fetch reader.cursor slots).trans h.columns_eq
      · intro routes hphase
        rcases hroutes routes (by simpa using hphase) with hknown | ⟨hby, hfound⟩
        · exact h.routes_eq routes hknown
        · subst hfound
          rw [Naming.routes_fst, h.rule_eq, h.columns_eq, ← hlayout hby]
          rfl

theorem RoutedFor.readRow {reader : Reader σ}
    (h : reader.RoutedFor rule columns dropUnmatched layout) {byField : Bool}
    {dest : Destination τ} (hlayout : byField = true → dest.layout = layout) :
    (reader.readRow byField dest).reader.RoutedFor rule columns dropUnmatched layout :=
  h.of_step hlayout (step_readRow byField reader dest)

/-- **The routes of a reader are those of its layout**, however it was called, if it was
called to read records of this layout only. -/
theorem RoutedFor.after {reader : Reader σ}
    (h : reader.RoutedFor rule columns dropUnmatched layout) {calls : List (Call τ)}
    (hcalls : ∀ call ∈ calls,
      call.All fun byField dest => byField = true → dest.layout = layout) :
    (reader.after calls).RoutedFor rule columns dropUnmatched layout :=
  after_induction_of (fun _ _ hlayout _ hreader => hreader.readRow hlayout) hcalls h

/-! ## Reading a row that suits -/

/-- What a cursor is asked for a row, through the slots of the destination. -/
def fetchFor (byField : Bool) (rule : NameRule) (columns : List String) (reader : Reader σ)
    (dest : Destination τ) : Fetched σ τ :=
  Cursor.fetch reader.cursor (dest.slotsFor byField rule columns)

/-- The routes that a reader finds for a destination are those of its layout. -/
theorem RoutedFor.routes_found {reader : Reader σ} {dest : Destination τ}
    (h : reader.RoutedFor rule columns dropUnmatched dest.layout) :
    (reader.naming.routes dest.key (Cursor.columnNames reader.cursor)).1 =
      dest.layout.routes rule columns := by
  rw [Naming.routes_fst, h.rule_eq, h.columns_eq]
  rfl

/-- The columns of a result that suits are routed as the layout says. -/
theorem RoutedFor.resolve_eq {reader : Reader σ} {fields : Record τ}
    (h : reader.RoutedFor rule columns dropUnmatched fields.layout) (info : RecordInfo τ)
    (hsuits : dropUnmatched = true ∨ ∀ name ∈ columns, ∃ k, fields.Answers rule name k) :
    ∃ naming log, reader.resolve (.record info fields) =
      (.ok (fields.layout.routes rule columns), naming, log) := by
  have hroutes : (reader.naming.routes (Destination.record info fields).key
      (Cursor.columnNames reader.cursor)).1 = fields.layout.routes rule columns :=
    h.routes_found
  simp only [resolve, Destination.isRecord, hroutes, h.dropUnmatched_eq]
  rcases hsuits with hdrop | hanswers
  · subst hdrop
    cases (fields.layout.routes rule columns).firstMissing? <;> exact ⟨_, _, rfl⟩
  · rw [firstMissing?_eq_none_iff.mpr hanswers]
    exact ⟨_, _, rfl⟩

/-- Columns are routed only to a record, and only if none is missing or they may be
dropped. -/
theorem RoutedFor.answers_of_resolve {reader : Reader σ} {dest : Destination τ}
    (h : reader.RoutedFor rule columns dropUnmatched dest.layout) {routes : Routes}
    {naming : Naming} {log : Log} (hresolve : reader.resolve dest = (.ok routes, naming, log)) :
    ∃ info fields, dest = .record info fields ∧
      (dropUnmatched = true ∨ ∀ name ∈ columns, ∃ k, fields.Answers rule name k) := by
  cases dest with
  | column cell => simp [resolve, Destination.isRecord, failFor] at hresolve
  | record info fields =>
      refine ⟨info, fields, rfl, ?_⟩
      cases hdrop : dropUnmatched with
      | true => exact Or.inl rfl
      | false =>
          refine Or.inr (firstMissing?_eq_none_iff.mp ?_)
          have hroutes : (reader.naming.routes (Destination.record info fields).key
              (Cursor.columnNames reader.cursor)).1 = fields.layout.routes rule columns :=
            h.routes_found
          simp only [resolve, Destination.isRecord, hroutes, h.dropUnmatched_eq,
            hdrop] at hresolve
          cases hmissing : (fields.layout.routes rule columns).firstMissing? with
          | none => rfl
          | some i => simp [hmissing, failFor] at hresolve

/-- A row is read by field through the slots of the leaves. -/
theorem RoutedFor.readFields_eq {reader : Reader σ} {fields : Record τ}
    (h : reader.RoutedFor rule columns dropUnmatched fields.layout) (info : RecordInfo τ)
    (hlive : reader.start.isSome)
    (hsuits : dropUnmatched = true ∨ ∀ name ∈ columns, ∃ k, fields.Answers rule name k) :
    ∃ naming log, reader.readFields (.record info fields) =
      settled
        { reader with
          cursor := (reader.fetchFor true rule columns (.record info fields)).cursor
          naming
          phase := .reading (some (fields.layout.routes rule columns)) }
        (reader.fetchFor true rule columns (.record info fields)).outcome
        ((Destination.record info fields).ofSlots true rule columns
          (reader.fetchFor true rule columns (.record info fields)).slots) log := by
  obtain ⟨started, hstart⟩ := Option.isSome_iff_exists.mp hlive
  obtain ⟨known, rfl, hknown⟩ := eq_of_start hstart
  simp only [readFields, hstart]
  cases known with
  | some routes =>
      have hphase : reader.phase = .reading (some routes) := by simpa using hknown
      rw [h.routes_eq routes hphase]
      exact ⟨reader.naming, _, rfl⟩
  | none =>
      have hreader : RoutedFor rule columns dropUnmatched fields.layout
          { reader with phase := .reading none } :=
        ⟨h.rule_eq, h.columns_eq, h.dropUnmatched_eq, by simp⟩
      obtain ⟨naming, log, hresolve⟩ := hreader.resolve_eq info hsuits
      simp only [scanFields, hresolve, fetchFields, Destination.withSlots, settled_log]
      exact ⟨naming, _, rfl⟩

/-- A row is read as a single column through one slot. -/
theorem RoutedFor.readColumn_eq {reader : Reader σ} {dest : Destination τ}
    (h : reader.RoutedFor rule columns dropUnmatched layout) (hlive : reader.start.isSome)
    (hsuits : columns.length ≤ 1 ∧ dest.takesValue = true) :
    ∃ routes log, reader.readColumn dest =
      settled
        { reader with
          cursor := (reader.fetchFor false rule columns dest).cursor
          phase := .reading routes }
        (reader.fetchFor false rule columns dest).outcome
        (dest.ofSlots false rule columns (reader.fetchFor false rule columns dest).slots)
        log := by
  obtain ⟨started, hstart⟩ := Option.isSome_iff_exists.mp hlive
  obtain ⟨routes, rfl, -⟩ := eq_of_start hstart
  have hone : ¬ (Cursor.columns reader.cursor).length > 1 := by
    have hcount := congrArg List.length h.columns_eq
    rw [Cursor.columnNames, List.length_map] at hcount
    omega
  refine ⟨routes, (reader.fetchFor false rule columns dest).log, ?_⟩
  simp only [readColumn, hstart, scanColumn, if_neg hone, hsuits.2, fetchColumn]
  cases dest <;> rfl

/-- **How a row that suits is read.**  The cursor is asked for it through the slots of the
destination, and what the slots hold then is put back. -/
theorem RoutedFor.readRow_eq {byField : Bool} {reader : Reader σ} {dest : Destination τ}
    (h : reader.RoutedFor rule columns dropUnmatched dest.layout) (hlive : reader.start.isSome)
    (hsuits : dest.Suits byField rule columns dropUnmatched) :
    ∃ naming routes log, reader.readRow byField dest =
      settled
        { reader with
          cursor := (reader.fetchFor byField rule columns dest).cursor
          naming
          phase := .reading routes }
        (reader.fetchFor byField rule columns dest).outcome
        (dest.ofSlots byField rule columns (reader.fetchFor byField rule columns dest).slots)
        log := by
  cases byField with
  | true =>
      obtain ⟨info, fields, rfl, hanswers⟩ := hsuits
      obtain ⟨naming, log, heq⟩ := h.readFields_eq info hlive hanswers
      exact ⟨naming, _, log, heq⟩
  | false =>
      obtain ⟨routes, log, heq⟩ := h.readColumn_eq hlive hsuits
      exact ⟨reader.naming, routes, log, heq⟩

/-- **What becomes of a row that the cursor writes.**  The destination takes it. -/
theorem RoutedFor.readRow_of_writes {byField : Bool} {reader : Reader σ} {dest : Destination τ}
    (h : reader.RoutedFor rule columns dropUnmatched dest.layout) (hlive : reader.start.isSome)
    (hsuits : dest.Suits byField rule columns dropUnmatched) {row : Row}
    (hwrites : Cursor.Writes τ reader.cursor row) :
    ∃ naming routes log, reader.readRow byField dest =
      settled
        { reader with
          cursor := (reader.fetchFor byField rule columns dest).cursor
          naming
          phase := .reading routes }
        ((dest.takeRow byField rule columns row).1.map fun _ => true)
        (dest.takeRow byField rule columns row).2 log := by
  obtain ⟨naming, routes, log, heq⟩ := h.readRow_eq hlive hsuits
  obtain ⟨next, before, hfetch⟩ := hwrites (dest.slotsFor byField rule columns)
  refine ⟨naming, routes, log, ?_⟩
  rw [heq]
  simp only [fetchFor, hfetch, deliver_eq]
  rfl

end Reader

end RowBind
