import RowBind.Proofs.Reader.ByField
import RowBind.Proofs.Reader.Mismatch

/-!
# Columns in another order

What a row leaves in a record depends on which value each leaf is given, and on nothing else:
not on the position of the value in the row, and not on the order in which the values are
assigned, although the first one that is refused ends the assigning.  So two rows with the same
values under the same names turn out alike.

Names that stand twice are the exception.  A leaf is given the value of the first column of its
name, and a reordering has to leave that column the first.

Whether a row is asked for at all depends on the order as little: a column that no leaf answers
to is found wherever it stands, when the columns are routed for the first time, and a reader
that knows its routes has found none.

Main statements: `Record.takeRow_eq_of_gets`, a record takes two rows alike that give its leaves
the same values; and `readFields_reordered`, a reader reads them alike, whatever was read before.
-/

namespace RowBind

variable {σ ρ τ : Type} [ColumnFamily τ]

namespace Record

/-! ## The values that leaves are given -/

variable {fields : Record τ} {routes routes' : Routes} {row row' : Row}

/-- The leaf at position `k` is given the value, which is that of the column that claims it. -/
def Gets (fields : Record τ) (routes : Routes) (row : Row) (k : Nat) (value : Value) : Prop :=
  ∃ i, fields.ClaimedBy routes k i ∧ row[i]? = some value

/-- A leaf that is claimed is given a value. -/
theorem ClaimedBy.exists_gets (hlength : row.length = routes.length) {k i : Nat}
    (h : fields.ClaimedBy routes k i) : ∃ value, fields.Gets routes row k value := by
  obtain ⟨hroute, -, -⟩ := claims_eq_some_iff.mp h
  have hlt : i < row.length := hlength ▸ (List.getElem?_eq_some_iff.mp hroute).1
  exact ⟨row[i], i, h, List.getElem?_eq_getElem hlt⟩

/-- A row is written exactly if every leaf takes the value that it is given. -/
theorem takeRow_ok_iff_gets (hlength : row.length = routes.length) :
    (fields.takeRow routes row).1 = .ok () ↔
      ∀ (k : Nat) (cell : Cell τ) (value : Value), fields.Gets routes row k value →
        fields.cells[k]? = some cell → ∃ new, cell.receive value = .ok new := by
  rw [takeRow_ok_iff hlength]
  constructor
  · rintro h k cell value ⟨i, hclaim, hvalue⟩ hcell
    exact h k i cell value hclaim hcell hvalue
  · intro h k i cell value hclaim hcell hvalue
    exact h k cell value ⟨i, hclaim, hvalue⟩ hcell

/-- A leaf that is given a value holds it, converted. -/
theorem Gets.written {k : Nat} {value : Value} (h : fields.Gets routes row k value)
    (hok : (fields.takeRow routes row).1 = .ok ()) :
    ∃ cell new, fields.cells[k]? = some cell ∧ cell.receive value = .ok new ∧
      (fields.takeRow routes row).2.cells[k]? = some new := by
  obtain ⟨i, hclaim, hvalue⟩ := h
  obtain ⟨-, hleaf, -⟩ := claims_eq_some_iff.mp hclaim
  have hcell := List.getElem?_eq_getElem hleaf
  obtain ⟨new, hnew, hwritten⟩ := takeRow_written hok hclaim hcell hvalue
  exact ⟨_, new, hcell, hnew, hwritten⟩

/-- Nothing but the leaves has to be known of a record that took a row. -/
theorem refill_cells_takeRow :
    fields.refill (fields.takeRow routes row).2.cells = (fields.takeRow routes row).2 := by
  rw [cells_takeRow]
  rfl

/-- **Rows that give the leaves the same values are taken alike**, through whatever routes. -/
theorem takeRow_eq_of_gets (hlength : row.length = routes.length)
    (hlength' : row'.length = routes'.length)
    (hsame : ∀ k value, fields.Gets routes row k value ↔ fields.Gets routes' row' k value) :
    ((fields.takeRow routes row).1 = .ok () ↔ (fields.takeRow routes' row').1 = .ok ()) ∧
      ((fields.takeRow routes row).1 = .ok () →
        (fields.takeRow routes row).2 = (fields.takeRow routes' row').2) := by
  have hiff : (fields.takeRow routes row).1 = .ok () ↔
      (fields.takeRow routes' row').1 = .ok () := by
    simp only [takeRow_ok_iff_gets hlength, takeRow_ok_iff_gets hlength', hsame]
  refine ⟨hiff, fun hok => ?_⟩
  have hok' := hiff.mp hok
  have hcells : (fields.takeRow routes row).2.cells = (fields.takeRow routes' row').2.cells := by
    refine List.ext_getElem? fun k => ?_
    by_cases hgiven : ∃ value, fields.Gets routes row k value
    · obtain ⟨value, hgets⟩ := hgiven
      obtain ⟨cell, new, hcell, hnew, hwritten⟩ := hgets.written hok
      obtain ⟨cell', new', hcell', hnew', hwritten'⟩ := ((hsame k value).mp hgets).written hok'
      rw [hcell] at hcell'
      cases hcell'
      rw [hnew] at hnew'
      cases hnew'
      rw [hwritten, hwritten']
    · have hunclaimed : ∀ i, ¬ fields.ClaimedBy routes k i := fun i hclaim =>
        hgiven (hclaim.exists_gets hlength)
      have hunclaimed' : ∀ i, ¬ fields.ClaimedBy routes' k i := fun i hclaim => by
        obtain ⟨value, hgets⟩ := hclaim.exists_gets hlength'
        exact hgiven ⟨value, (hsame k value).mpr hgets⟩
      rw [takeRow_kept row hunclaimed, takeRow_kept row' hunclaimed']
  rw [← refill_cells_takeRow, hcells, refill_cells_takeRow]

/-! ## Rows with their columns in another order -/

variable {rule : NameRule} {columns columns' : List String}

/-- Two rows have the same values under the same names, in another order that makes no
difference to the leaves of the record. -/
structure Reordered (rule : NameRule) (fields : Record τ) (columns : List String) (row : Row)
    (columns' : List String) (row' : Row) : Prop where
  aligned : row.length = columns.length
  aligned' : row'.length = columns'.length
  perm : (columns.zip row).Perm (columns'.zip row')
  /-- No leaf answers to two of the columns; or else, of the columns that a leaf answers to, the
  first one has the same value in both rows. -/
  first :
    (∀ (k i j : Nat) (name other : String), columns[i]? = some name → columns[j]? = some other →
      fields.Answers rule name k → fields.Answers rule other k → i = j) ∨
    ∀ k i j, fields.FedBy rule columns k i → fields.FedBy rule columns' k j → row[i]? = row'[j]?

/-- If a leaf answers to a column at all, it is fed by one. -/
theorem exists_fedBy {k i : Nat} {name : String} (hname : columns[i]? = some name)
    (h : fields.Answers rule name k) : ∃ first, fields.FedBy rule columns k first := by
  induction i using Nat.strongRecOn generalizing name with
  | ind i ih =>
      by_cases hearlier : ∃ j < i, ∃ other, columns[j]? = some other ∧ fields.Answers rule other k
      · obtain ⟨j, hj, other, hother, hanswers⟩ := hearlier
        exact ih j hj hother hanswers
      · exact ⟨i, ⟨name, hname, h⟩, fun j hj other hother hanswers =>
          hearlier ⟨j, hj, other, hother, hanswers⟩⟩

/-- A column has its value in the other row too, under the same name. -/
theorem exists_column_of_perm (hperm : (columns.zip row).Perm (columns'.zip row')) {i : Nat}
    {name : String} {value : Value} (hname : columns[i]? = some name)
    (hvalue : row[i]? = some value) :
    ∃ j : Nat, columns'[j]? = some name ∧ row'[j]? = some value := by
  have hentry : (columns.zip row)[i]? = some (name, value) :=
    List.getElem?_zip_eq_some.mpr ⟨hname, hvalue⟩
  have hmem := hperm.mem_iff.mp (List.mem_of_getElem? hentry)
  obtain ⟨j, hj⟩ := List.mem_iff_getElem?.mp hmem
  exact ⟨j, List.getElem?_zip_eq_some.mp hj⟩

namespace Reordered

/-- The first column that a leaf answers to has the same value in both rows. -/
theorem first_value (h : Reordered rule fields columns row columns' row') {k i j : Nat}
    (hfed : fields.FedBy rule columns k i) (hfed' : fields.FedBy rule columns' k j) :
    row[i]? = row'[j]? := by
  obtain hsingle | hfirst := h.first
  · obtain ⟨⟨name, hname, hanswers⟩, -⟩ := hfed
    obtain ⟨⟨other, hother, hanswers'⟩, -⟩ := hfed'
    have hlt : j < row'.length := h.aligned' ▸ (List.getElem?_eq_some_iff.mp hother).1
    obtain ⟨l, hl, hvalue⟩ :=
      exists_column_of_perm h.perm.symm hother (List.getElem?_eq_getElem hlt)
    obtain rfl : i = l := hsingle k i l name other hname hl hanswers hanswers'
    rw [hvalue, List.getElem?_eq_getElem hlt]
  · exact hfirst k i j hfed hfed'

theorem gets_of_gets (hperm : (columns.zip row).Perm (columns'.zip row'))
    (hfirst : ∀ {k i j : Nat}, fields.FedBy rule columns k i → fields.FedBy rule columns' k j →
      row[i]? = row'[j]?) {k : Nat} {value : Value}
    (h : fields.Gets (fields.layout.routes rule columns) row k value) :
    fields.Gets (fields.layout.routes rule columns') row' k value := by
  obtain ⟨i, hclaim, hvalue⟩ := h
  have hfed := claimedBy_routes_iff.mp hclaim
  obtain ⟨⟨name, hname, hanswers⟩, -⟩ := id hfed
  obtain ⟨j, hj, -⟩ := exists_column_of_perm hperm hname hvalue
  obtain ⟨first, hfed'⟩ := exists_fedBy hj hanswers
  exact ⟨first, claimedBy_routes_iff.mpr hfed', by rw [← hfirst hfed hfed', hvalue]⟩

/-- Both rows give the leaves the same values. -/
theorem gets_iff (h : Reordered rule fields columns row columns' row') (k : Nat) (value : Value) :
    fields.Gets (fields.layout.routes rule columns) row k value ↔
      fields.Gets (fields.layout.routes rule columns') row' k value :=
  ⟨gets_of_gets h.perm h.first_value,
    gets_of_gets h.perm.symm fun hfed' hfed => (h.first_value hfed hfed').symm⟩

/-- Both rows are taken alike. -/
theorem takeRow_alike (h : Reordered rule fields columns row columns' row') :
    ((fields.takeRow (fields.layout.routes rule columns) row).1 = .ok () ↔
        (fields.takeRow (fields.layout.routes rule columns') row').1 = .ok ()) ∧
      ((fields.takeRow (fields.layout.routes rule columns) row).1 = .ok () →
        (fields.takeRow (fields.layout.routes rule columns) row).2 =
          (fields.takeRow (fields.layout.routes rule columns') row').2) :=
  takeRow_eq_of_gets (by simpa [Layout.routes] using h.aligned)
    (by simpa [Layout.routes] using h.aligned') h.gets_iff

/-- The columns are the same ones. -/
theorem mem_columns_iff (h : Reordered rule fields columns row columns' row') (name : String) :
    name ∈ columns ↔ name ∈ columns' := by
  have hnames := h.perm.map Prod.fst
  rw [List.map_fst_zip (Nat.le_of_eq h.aligned.symm),
    List.map_fst_zip (Nat.le_of_eq h.aligned'.symm)] at hnames
  exact hnames.mem_iff

/-- Different names have no leaf in common. -/
theorem of_nodup (hlength : row.length = columns.length) (hlength' : row'.length = columns'.length)
    (hperm : (columns.zip row).Perm (columns'.zip row')) (hnodup : columns.Nodup) :
    Reordered rule fields columns row columns' row' := by
  refine ⟨hlength, hlength', hperm, .inl ?_⟩
  rintro k i j name other hi hj ⟨leaf, hleaf, hname, -⟩ ⟨leaf', hleaf', hname', -⟩
  rw [hleaf] at hleaf'
  cases hleaf'
  obtain rfl : name = other := hname.symm.trans hname'
  obtain ⟨hlt, -⟩ := List.getElem?_eq_some_iff.mp hi
  exact (List.getElem?_inj hlt hnodup).mp (hi.trans hj.symm)

end Reordered

end Record

namespace Reader

/-! ## Routes that lack no column -/

/-- The routes that the reader knows lead every column to a leaf, unless columns may be
dropped. -/
def LacksNone (reader : Reader σ) : Prop :=
  ∀ routes, reader.routes? = some routes →
    reader.dropUnmatched = true ∨ routes.firstMissing? = none

theorem lacksNone_settled {reader : Reader σ} (h : reader.LacksNone) (outcome : Outcome Bool)
    (dest : Destination τ) (log : Log) : (settled reader outcome dest log).reader.LacksNone := by
  unfold settled
  split
  · exact h
  · exact h
  · exact nofun

variable [Cursor σ] [Cursor ρ]

/-- Routes are found only if they lack no column. -/
theorem lacksNone_of_resolve {reader : Reader σ} {dest : Destination τ} {routes : Routes}
    (h : (reader.resolve dest).1 = .ok routes) :
    reader.dropUnmatched = true ∨ routes.firstMissing? = none := by
  rw [resolve_outcome] at h
  split at h
  · dsimp only at h
    split at h
    · cases h
    · next hmissing =>
      cases h
      cases hdrop : reader.dropUnmatched with
      | true => exact .inl rfl
      | false =>
          refine .inr (Option.eq_none_iff_forall_ne_some.mpr fun i hi => ?_)
          exact hmissing i hi hdrop
  · cases h

/-- Preparing for a row finds only routes that lack no column. -/
theorem LacksNone.prepared {reader : Reader σ} (h : reader.LacksNone) {byField : Bool}
    {dest : Destination τ} (hobjection : reader.objection? byField dest = none) :
    (reader.prepared byField dest).1.LacksNone := by
  unfold Reader.prepared
  split
  · next hunrouted =>
    obtain ⟨rfl, hnone⟩ : byField = true ∧ reader.routes? = none := by simpa using hunrouted
    simp only [objection?, hnone, if_true] at hobjection
    rcases hresolve : reader.resolve dest with ⟨_ | routes, naming, log⟩
    · simp [hresolve] at hobjection
    · have hlacks := lacksNone_of_resolve (congrArg Prod.fst hresolve)
      have hfound : reader.routesFor true dest = some routes := by
        simp [routesFor, hnone, resolve_routes hresolve]
      intro known hknown
      obtain rfl : known = routes := Option.some.inj (hknown.symm.trans hfound)
      exact hlacks
  · exact h

/-- Reading a row, in whatever way, does not make a reader lack a column. -/
theorem LacksNone.readRow {reader : Reader σ} (h : reader.LacksNone) (byField : Bool)
    (dest : Destination τ) : (reader.readRow byField dest).reader.LacksNone := by
  cases hstart : reader.start with
  | none =>
      rw [readRow_idle hstart]
      exact h
  | some started =>
      have hlive : reader.start.isSome := by simp [hstart]
      cases hobjection : reader.objection? byField dest with
      | some failure =>
          rw [readRow_objected hlive hobjection]
          exact nofun
      | none =>
          rw [readRow_asked hlive hobjection]
          refine lacksNone_settled ?_ _ _ _
          exact h.prepared hobjection

/-- However a reader was called, it lacks no column. -/
theorem lacksNone_after (cursor : σ) (naming : Naming) (dropUnmatched force : Bool)
    (calls : List (Call τ)) : ((fresh cursor naming dropUnmatched force).after calls).LacksNone :=
  after_induction (P := LacksNone) (fun byField (dest : Destination τ) _ h => h.readRow byField dest)
    calls nofun

/-! ## Reading a row -/

/-- A row that the cursor writes is there exactly if its columns can be routed and the record
takes it; and then the record is what it was made by that. -/
theorem RoutedFor.delivered_iff {rule : NameRule} {columns : List String} {dropUnmatched : Bool}
    {reader : Reader σ} {fields : Record τ}
    (h : reader.RoutedFor rule columns dropUnmatched fields.layout) (hlacks : reader.LacksNone)
    (hlive : reader.start.isSome) (info : RecordInfo τ) {row : Row}
    (hwrites : Cursor.Writes τ reader.cursor row) :
    let reading := reader.readFields (.record info fields)
    let taken := fields.takeRow (fields.layout.routes rule columns) row
    (reading.delivered = true ↔
        (dropUnmatched = true ∨ ∀ name ∈ columns, ∃ k, fields.Answers rule name k) ∧
          taken.1 = .ok ()) ∧
      (reading.delivered = true → reading.dest = .record info taken.2) := by
  intro reading taken
  by_cases hanswers : dropUnmatched = true ∨ ∀ name ∈ columns, ∃ k, fields.Answers rule name k
  · obtain ⟨naming, routes, log, heq⟩ := h.readFields_of_writes hlive info hanswers hwrites
    have hreading : reading = _ := heq
    rw [hreading, settled_map_delivered, settled_dest]
    exact ⟨⟨fun hok => ⟨hanswers, hok⟩, And.right⟩, fun _ => rfl⟩
  · have hunrouted : reader.routes? = none := by
      refine Option.eq_none_iff_forall_ne_some.mpr fun routes hroutes => hanswers ?_
      have hnone := hlacks routes hroutes
      rw [h.dropUnmatched_eq, h.routes_eq routes (routes?_eq_some_iff.mp hroutes)] at hnone
      exact hnone.imp_right firstMissing?_eq_none_iff.mp
    have hunsuited : ¬ reader.Suits true (.record info fields) := by
      rw [Suits, h.rule_eq, h.columns_eq, h.dropUnmatched_eq, Destination.suits_record_iff]
      exact hanswers
    obtain ⟨failure, hobjection⟩ := Option.ne_none_iff_exists'.mp
      fun hnone => hunsuited ((objection?_eq_none_iff hunrouted).mp hnone)
    have hreading : reading = _ := readRow_objected hlive hobjection
    rw [hreading]
    exact ⟨iff_of_false Bool.false_ne_true fun hok => hanswers hok.1, by simp⟩

/-- **The order of the columns does not matter.**  Two readers with the same rule for names and
the same flags are about to read a row by field into the same record, whatever either of them
has read before.  If the one row has the values of the other in another order, which leaves the
first column of each leaf the first, then both are read or neither is, and the records are the
same. -/
theorem readFields_reordered (cursor : σ) (cursor' : ρ) (naming naming' : Naming)
    (hrule : naming'.rule = naming.rule) (dropUnmatched force : Bool) (info : RecordInfo τ)
    {fields : Record τ} (calls calls' : List (Call τ))
    (hcalls : ∀ call ∈ calls,
      call.All fun byField dest => byField = true → dest.layout = fields.layout)
    (hcalls' : ∀ call ∈ calls',
      call.All fun byField dest => byField = true → dest.layout = fields.layout)
    (hfine : ((fresh cursor naming dropUnmatched force).after calls).failure? = none)
    (hfine' : ((fresh cursor' naming' dropUnmatched force).after calls').failure? = none)
    {row row' : Row}
    (hwrites : Cursor.Writes τ
      ((fresh cursor naming dropUnmatched force).after calls).cursor row)
    (hwrites' : Cursor.Writes τ
      ((fresh cursor' naming' dropUnmatched force).after calls').cursor row')
    (hreordered : Record.Reordered naming.rule fields (Cursor.columnNames cursor) row
      (Cursor.columnNames cursor') row') :
    let reading :=
      ((fresh cursor naming dropUnmatched force).after calls).readFields (.record info fields)
    let reading' :=
      ((fresh cursor' naming' dropUnmatched force).after calls').readFields (.record info fields)
    (reading.delivered = true ↔ reading'.delivered = true) ∧
      (reading.delivered = true → reading.dest = reading'.dest) := by
  intro reading reading'
  have hrouted := (RoutedFor.fresh cursor naming dropUnmatched force fields.layout).after hcalls
  have hrouted' :=
    (RoutedFor.fresh cursor' naming' dropUnmatched force fields.layout).after hcalls'
  rw [hrule] at hrouted'
  have hlive := start_isSome (after_phase_ne (by simp [fresh]) calls) hfine
  have hlive' := start_isSome (after_phase_ne (by simp [fresh]) calls') hfine'
  obtain ⟨hiff, hdest⟩ := hrouted.delivered_iff (lacksNone_after _ _ _ _ _) hlive info hwrites
  obtain ⟨hiff', hdest'⟩ :=
    hrouted'.delivered_iff (lacksNone_after _ _ _ _ _) hlive' info hwrites'
  obtain ⟨htaken, hsame⟩ := hreordered.takeRow_alike
  have hdelivered : reading.delivered = true ↔ reading'.delivered = true := by
    rw [hiff, hiff', htaken]
    simp only [hreordered.mem_columns_iff]
  refine ⟨hdelivered, fun hread => ?_⟩
  rw [hdest hread, hdest' (hdelivered.mp hread), hsame (hiff.mp hread).2]

/-- The first row of a result, one column of which has no leaf, and of the same result with its
columns turned around by one. -/
theorem readFields_reordered_turned :
    let row : Row := [.bool (some true), .null, .text (some "a")]
    let row' : Row := [.text (some "a"), .bool (some true), .null]
    let cursor : Paged :=
      { columns := [{ name := "state.flag" }, { name := "other" }, { name := "id" }]
        rows := [row] }
    let turned : Paged :=
      { columns := [{ name := "id" }, { name := "state.flag" }, { name := "other" }]
        rows := [row'] }
    let fields : Record Scalar :=
      .column ⟨"id", "id", false⟩ ⟨.text, "unread"⟩
        (.nested ⟨"state", "state", false⟩
          (.column ⟨"flag", "flag", false⟩ ⟨.bool, false⟩ .nil) .nil)
    let reading := (fresh cursor .asWritten true false).readFields (.record ⟨"Entry", none⟩ fields)
    let reading' := (fresh turned .asWritten true false).readFields (.record ⟨"Entry", none⟩ fields)
    Record.Reordered id fields (Cursor.columnNames cursor) row (Cursor.columnNames turned) row' ∧
      (reading.delivered = true ↔ reading'.delivered = true) ∧
      (reading.delivered = true → reading.dest = reading'.dest) := by
  intro row row' cursor turned fields
  have hholds : Cursor.Holds Scalar cursor cursor.rows := holds_paged rfl rfl
  have hturned : Cursor.Holds Scalar turned turned.rows := holds_paged rfl rfl
  have hperm : ([("state.flag", Value.bool (some true)), ("other", Value.null)] ++
      [("id", Value.text (some "a"))]).Perm _ := List.perm_append_comm
  have hreordered : Record.Reordered id fields (Cursor.columnNames cursor) row
      (Cursor.columnNames turned) row' := .of_nodup rfl rfl hperm (by decide)
  have halike := readFields_reordered cursor turned .asWritten .asWritten rfl true false
    ⟨"Entry", none⟩ [] [] nofun nofun rfl rfl hholds.writes hturned.writes hreordered
  exact ⟨hreordered, halike⟩

end Reader

end RowBind
