import RowBind.Column.Scalar.Convert
import RowBind.Proofs.Reader.Suiting

/-!
# Rows read by field

A row goes from the columns of a result to the leaves of a record by name.  Five things
have to agree on the way: the names and positions of the leaves, the table that finds a
leaf for a name, the routes that are kept from one row to the next, the claims of which
the first one wins, and the slots that are filled in column order.  What comes of them all
is said here in terms of names and values: a leaf is fed by the first of the columns that
it answers to, and by no other one.

Main statements: `claimedBy_routes_iff`, a leaf is claimed by the column that feeds it; and
`readFields_routed`, what becomes of any row of a reader, the first one that is read by
field or a later one.
-/

namespace RowBind

variable {σ τ : Type} [ColumnFamily τ]

namespace Record

/-- The leaf at position `k` is fed by the column at position `i`: it answers to its name,
and to that of no earlier column. -/
def FedBy (rule : NameRule) (columns : List String) (fields : Record τ) (k i : Nat) : Prop :=
  (∃ name, columns[i]? = some name ∧ fields.Answers rule name k) ∧
    ∀ j < i, ∀ name, columns[j]? = some name → ¬ fields.Answers rule name k

/-- A column is routed to the leaf that answers to its name. -/
theorem routes_getElem_iff {rule : NameRule} {columns : List String} {fields : Record τ}
    {k i : Nat} :
    (fields.layout.routes rule columns)[i]? = some (some k) ↔
      ∃ name, columns[i]? = some name ∧ fields.Answers rule name k := by
  simp only [Layout.routes, List.getElem?_map, Option.map_eq_some_iff,
    ← NameTable.find?_slot_eq_some_iff]

/-- A leaf is claimed by the column that feeds it. -/
theorem claimedBy_routes_iff {rule : NameRule} {columns : List String} {fields : Record τ}
    {k i : Nat} :
    fields.ClaimedBy (fields.layout.routes rule columns) k i ↔
      fields.FedBy rule columns k i := by
  rw [ClaimedBy, claims_eq_some_iff, FedBy, routes_getElem_iff]
  constructor
  · rintro ⟨hfound, -, hfirst⟩
    exact ⟨hfound, fun j hj name hname hk =>
      hfirst j hj (routes_getElem_iff.mpr ⟨name, hname, hk⟩)⟩
  · rintro ⟨⟨name, hname, hk⟩, hfirst⟩
    obtain ⟨leaf, hleaf, -⟩ := id hk
    refine ⟨⟨name, hname, hk⟩, ?_, fun j hj hroute => ?_⟩
    · rw [← fields.leaves_map_cell rule, List.length_map]
      exact (List.getElem?_eq_some_iff.mp hleaf).1
    · obtain ⟨earlier, hearlier, hanswers⟩ := routes_getElem_iff.mp hroute
      exact hfirst j hj earlier hearlier hanswers

/-- The cell of a leaf is that at its position. -/
theorem cells_getElem_of_leaf {rule : NameRule} {fields : Record τ} {k : Nat} {leaf : Leaf τ}
    (h : (fields.leaves rule)[k]? = some leaf) : fields.cells[k]? = some leaf.cell := by
  rw [← fields.leaves_map_cell rule, List.getElem?_map, h, Option.map_some]

/-- In a record of the same layout, a leaf has the same name and the same depth. -/
theorem leaf_of_cell {rule : NameRule} {fields after : Record τ}
    (hlayout : after.layout = fields.layout) {k : Nat} {leaf : Leaf τ}
    (hleaf : (fields.leaves rule)[k]? = some leaf) {cell : Cell τ}
    (hcell : after.cells[k]? = some cell) :
    (after.leaves rule)[k]? = some { leaf with cell } := by
  have hnamed := congrArg (·[k]?) (after.leaves_map_name rule)
  rw [hlayout, ← fields.leaves_map_name rule] at hnamed
  simp only [List.getElem?_map, hleaf, Option.map_some] at hnamed
  rw [← after.leaves_map_cell rule, List.getElem?_map] at hcell
  obtain ⟨⟨name, depth, _⟩, hfound, rfl⟩ := Option.map_eq_some_iff.mp hcell
  rw [hfound] at hnamed ⊢
  simp only [Option.map_some, Option.some.injEq, Prod.mk.injEq] at hnamed
  simp [hnamed]

end Record

namespace Reader

/-- What is to be expected of a row that is read by field into a record. -/
structure RoutedByName (rule : NameRule) (columns : List String) (row : Row)
    (info : RecordInfo τ) (fields : Record τ) (reading : Reading σ τ) : Prop where
  /-- The row is there exactly if every leaf that is fed takes the value it is fed with. -/
  delivered_iff : reading.delivered = true ↔
    ∀ (k i : Nat) (leaf : Leaf τ) (value : Value), fields.FedBy rule columns k i →
      (fields.leaves rule)[k]? = some leaf → row[i]? = some value →
        ∃ content, ofValue leaf.cell.type value = .ok content
  /-- Then every leaf that is fed holds its value, converted; the other leaves, and all
  that is no leaf, are as they were. -/
  written : reading.delivered = true →
    ∃ after : Record τ, reading.dest = .record info after ∧
      after.outline = fields.outline ∧
      ∀ (k : Nat) (leaf : Leaf τ), (fields.leaves rule)[k]? = some leaf →
        (∀ (i : Nat) (value : Value), fields.FedBy rule columns k i → row[i]? = some value →
          ∃ content, ofValue leaf.cell.type value = .ok content ∧
            (after.leaves rule)[k]? = some { leaf with cell := ⟨leaf.cell.type, content⟩ }) ∧
        ((∀ i, ¬ fields.FedBy rule columns k i) → (after.leaves rule)[k]? = some leaf)

/-- A row is there if its destination took it. -/
theorem settled_map_delivered (reader : Reader σ) (outcome : Outcome Unit)
    (dest : Destination τ) (log : Log) :
    (settled reader (outcome.map fun _ => true) dest log).delivered = true ↔
      outcome = .ok () := by
  cases outcome <;> simp [settled, Except.map]

theorem settled_dest (reader : Reader σ) (outcome : Outcome Bool) (dest : Destination τ)
    (log : Log) : (settled reader outcome dest log).dest = dest := by
  unfold settled
  split <;> rfl

/-- A record that takes a row through the routes of its layout does with it what is to be
expected. -/
theorem RoutedByName.of_takeRow {rule : NameRule} {columns : List String} {row : Row}
    {info : RecordInfo τ} {fields : Record τ} (hlength : row.length = columns.length)
    (reader : Reader σ) (log : Log) :
    RoutedByName rule columns row info fields
      (settled reader
        ((fields.takeRow (fields.layout.routes rule columns) row).1.map fun _ => true)
        (.record info (fields.takeRow (fields.layout.routes rule columns) row).2) log) := by
  have hroutes : row.length = (fields.layout.routes rule columns).length := by
    simpa [Layout.routes] using hlength
  constructor
  · rw [settled_map_delivered, Record.takeRow_ok_iff hroutes]
    constructor
    · intro htake k i leaf value hfed hleaf hvalue
      obtain ⟨new, hnew⟩ := htake k i leaf.cell value (Record.claimedBy_routes_iff.mpr hfed)
        (Record.cells_getElem_of_leaf hleaf) hvalue
      obtain ⟨content, hcontent, -⟩ := Cell.receive_eq_ok_iff.mp hnew
      exact ⟨content, hcontent⟩
    · intro hconvert k i cell value hclaim hcell hvalue
      rw [← fields.leaves_map_cell rule, List.getElem?_map] at hcell
      obtain ⟨leaf, hleaf, rfl⟩ := Option.map_eq_some_iff.mp hcell
      obtain ⟨content, hcontent⟩ := hconvert k i leaf value
        (Record.claimedBy_routes_iff.mp hclaim) hleaf hvalue
      exact ⟨_, Cell.receive_eq_ok_iff.mpr ⟨content, hcontent, rfl⟩⟩
  · rw [settled_map_delivered, settled_dest]
    intro hok
    refine ⟨_, rfl, Record.takeRow_outline hroutes hok, fun k leaf hleaf => ⟨?_, ?_⟩⟩
    · intro i value hfed hvalue
      obtain ⟨new, hnew, hwritten⟩ := Record.takeRow_written hok
        (Record.claimedBy_routes_iff.mpr hfed) (Record.cells_getElem_of_leaf hleaf) hvalue
      obtain ⟨content, hcontent, rfl⟩ := Cell.receive_eq_ok_iff.mp hnew
      exact ⟨content, hcontent, Record.leaf_of_cell Record.layout_takeRow hleaf hwritten⟩
    · intro hunfed
      have hkept := Record.takeRow_kept row fun i hclaim =>
        hunfed i (Record.claimedBy_routes_iff.mp hclaim)
      rw [Record.cells_getElem_of_leaf hleaf] at hkept
      exact Record.leaf_of_cell Record.layout_takeRow hleaf hkept

/-- A reader that was not closed and has not failed is ready for the next row. -/
theorem start_isSome {reader : Reader σ} (hopen : reader.phase ≠ .closed)
    (hfine : reader.failure? = none) : reader.start.isSome := by
  cases hphase : reader.phase <;> simp_all [start, failure?]

/-- Two readers that have read equally many rows settle alike what turns out alike. -/
theorem settled_alike {reader other : Reader σ} (hrows : reader.rows = other.rows)
    (hfine : reader.failure? = none) (hfine' : other.failure? = none) (outcome : Outcome Bool)
    (dest : Destination τ) (log log' : Log) :
    let reading := settled reader outcome dest log
    let reading' := settled other outcome dest log'
    reading'.delivered = reading.delivered ∧ reading'.dest = reading.dest ∧
      reading'.reader.failure? = reading.reader.failure? := by
  cases outcome with
  | error failure => simp [settled, nothing, fail, failure?, hrows]
  | ok delivered =>
      cases delivered with
      | true => exact ⟨rfl, rfl, hfine'.trans hfine.symm⟩
      | false => exact ⟨rfl, rfl, hfine'.trans hfine.symm⟩

variable [Cursor σ]

/-- A row that the cursor writes is read by field as the leaves of the record take it. -/
theorem RoutedFor.readFields_of_writes {rule : NameRule} {columns : List String}
    {dropUnmatched : Bool} {reader : Reader σ} {fields : Record τ}
    (h : reader.RoutedFor rule columns dropUnmatched fields.layout)
    (hlive : reader.start.isSome) (info : RecordInfo τ)
    (hanswers : dropUnmatched = true ∨ ∀ name ∈ columns, ∃ k, fields.Answers rule name k)
    {row : Row} (hwrites : Cursor.Writes τ reader.cursor row) :
    ∃ naming routes log, reader.readFields (.record info fields) =
      settled
        { reader with
          cursor := (reader.fetchFor true rule columns (.record info fields)).cursor
          naming
          phase := .reading routes }
        ((fields.takeRow (fields.layout.routes rule columns) row).1.map fun _ => true)
        (.record info (fields.takeRow (fields.layout.routes rule columns) row).2) log := by
  have hsuits : (Destination.record info fields).Suits true rule columns dropUnmatched :=
    ⟨info, fields, rfl, hanswers⟩
  obtain ⟨naming, routes, log, heq⟩ := h.readRow_of_writes hlive hsuits hwrites
  rw [Destination.takeRow_record] at heq
  exact ⟨naming, routes, log, heq⟩

/-- **Where the values of a row go.**  Any row that a reader reads by field, the first one
or a later one, goes to the leaves by name: every leaf takes the value of the first column
it answers to.  And the values of the other columns are of no influence: another row that
agrees with it on the columns that feed leaves turns out the same. -/
theorem readFields_routed (cursor : σ) (naming : Naming) (dropUnmatched force : Bool)
    (info : RecordInfo τ) {fields : Record τ} {calls : List (Call τ)}
    (hcalls : ∀ call ∈ calls,
      call.All fun byField dest => byField = true → dest.layout = fields.layout)
    (hanswers : dropUnmatched = true ∨
      ∀ name ∈ Cursor.columnNames cursor, ∃ k, fields.Answers naming.rule name k)
    (hfine : ((fresh cursor naming dropUnmatched force).after calls).failure? = none)
    {row : Row} (hlength : row.length = (Cursor.columnNames cursor).length)
    (hwrites : Cursor.Writes τ
      ((fresh cursor naming dropUnmatched force).after calls).cursor row) :
    let columns := Cursor.columnNames cursor
    let reader := (fresh cursor naming dropUnmatched force).after calls
    let reading := reader.readFields (.record info fields)
    RoutedByName naming.rule columns row info fields reading ∧
      ∀ (other : σ) (row' : Row), Cursor.columns other = Cursor.columns reader.cursor →
        row'.length = row.length → Cursor.Writes τ other row' →
        (∀ k i, fields.FedBy naming.rule columns k i → row'[i]? = row[i]?) →
          let reading' := { reader with cursor := other }.readFields (.record info fields)
          reading'.delivered = reading.delivered ∧ reading'.dest = reading.dest ∧
            reading'.reader.failure? = reading.reader.failure? := by
  intro columns reader reading
  have hrouted : reader.RoutedFor naming.rule columns dropUnmatched fields.layout :=
    (RoutedFor.fresh cursor naming dropUnmatched force fields.layout).after hcalls
  have hlive : reader.start.isSome :=
    start_isSome (after_phase_ne (by simp [fresh]) calls) hfine
  obtain ⟨found, routes, log, heq⟩ :=
    hrouted.readFields_of_writes hlive info hanswers hwrites
  have hreading : reading = _ := heq
  refine ⟨hreading ▸ RoutedByName.of_takeRow hlength _ log, ?_⟩
  intro other row' hcolumns hlength' hwrites' hagree reading'
  have hrouted' : RoutedFor naming.rule columns dropUnmatched fields.layout
      { reader with cursor := other } :=
    ⟨hrouted.rule_eq, by rw [← hrouted.columns_eq, Cursor.columnNames, hcolumns]; rfl,
      hrouted.dropUnmatched_eq, hrouted.routes_eq⟩
  have hlive' : ({ reader with cursor := other } : Reader σ).start.isSome :=
    start_isSome (after_phase_ne (by simp [fresh]) calls) hfine
  obtain ⟨found', routes', log', heq'⟩ :=
    hrouted'.readFields_of_writes hlive' info hanswers hwrites'
  have hreading' : reading' = _ := heq'
  have htaken : fields.takeRow (fields.layout.routes naming.rule columns) row' =
      fields.takeRow (fields.layout.routes naming.rule columns) row :=
    Record.takeRow_congr hlength' fun k i hclaim =>
      hagree k i (Record.claimedBy_routes_iff.mp hclaim)
  rw [hreading, hreading', htaken]
  apply settled_alike <;> rfl

/-- The second row of a result in which a name stands twice and another has no leaf, read
into a record with an ignored field. -/
theorem readFields_routed_second :
    let flag : ColumnInfo := { name := "state.flag" }
    let cursor : Paged :=
      { columns := [flag, { name := "other" }, flag]
        rows := [[.bool (some true), .null, .null], [.bool (some false), .null, .null]] }
    let fields : Record Scalar :=
      .column ⟨"id", "id", false⟩ ⟨.text, "unread"⟩ (.ignored "note" ⟨.text, "kept"⟩
        (.nested ⟨"state", "state", false⟩
          (.column ⟨"flag", "flag", false⟩ ⟨.bool, true⟩ .nil) .nil))
    let reader := (fresh cursor .asWritten true false).after
      [.fields (.record ⟨"Entry", none⟩ fields)]
    reader.failure? = none ∧
      Cursor.Writes Scalar reader.cursor [.bool (some false), .null, .null] ∧
      RoutedByName id ["state.flag", "other", "state.flag"] [.bool (some false), .null, .null]
        ⟨"Entry", none⟩ fields (reader.readFields (.record ⟨"Entry", none⟩ fields)) := by
  intro flag cursor fields reader
  have hroutes : fields.layout.routes id ["state.flag", "other", "state.flag"] =
      [some 1, none, some 1] := by
    simp [fields, Layout.routes, Record.layout, NameTable.ofLayout, NameTable.find?,
      Layout.namedColumns, FieldName.segment, List.mergeSort]
  have htaken : ((Destination.record ⟨"Entry", none⟩ fields).takeRow true id
      ["state.flag", "other", "state.flag"] [.bool (some true), .null, .null]).1 = .ok () := by
    rw [Destination.takeRow_record, hroutes]
    rfl
  have hholds : Cursor.Holds Scalar cursor cursor.rows := holds_paged rfl rfl
  have hsuits : (Destination.record ⟨"Entry", none⟩ fields).Suits true id
      ["state.flag", "other", "state.flag"] true := ⟨_, _, rfl, Or.inl rfl⟩
  -- the first row is there, so the reader goes on with the routes it has found for it
  obtain ⟨naming, routes, log, hfirst⟩ :=
    (RoutedFor.fresh cursor .asWritten true false fields.layout).readRow_of_writes rfl hsuits
      hholds.writes
  have hreader : reader = _ := congrArg (·.reader) hfirst
  simp only [htaken] at hreader
  have hfine : reader.failure? = none := by
    rw [hreader]
    rfl
  have hwrites : Cursor.Writes Scalar reader.cursor [.bool (some false), .null, .null] := by
    rw [hreader]
    exact (hholds.fetch _).writes
  exact ⟨hfine, hwrites, (readFields_routed cursor .asWritten true false ⟨"Entry", none⟩
    (by simp [Call.All, Destination.layout]) (Or.inl rfl) hfine rfl hwrites).1⟩

end Reader

end RowBind
