import RowBind.Proofs.Record.Place
import RowBind.Proofs.Route.Filling

/-!
# The numbering of the columns

The columns of a record are numbered three times, and never by looking at one of the other
numberings: the layout counts them, a naming lists them in the table of the record type,
and the record itself hands out its leaves one after the other.  A row finds its way by
number alone.  So position by position the entry of the table has to tell of the very
column whose cell is the leaf, in records of any shape.

What the three have in common is the place of the column.  Its name and its depth are found
there in the layout, its cell is found there in the record, and a value that is written
through its number changes the record there and nowhere else.

Main statements: `ChangedAt.of_cells`, leaves that are exchanged are cells that are
exchanged; `write_changedAt` and `write_refused`, what writing a single leaf does; and
`numbered_alike`, the three numberings agree.
-/

namespace RowBind.Record

variable {τ : Type} [ColumnFamily τ]

/-! ## Changes at a place -/

/-- The record `after` is the record with a new cell at a place, and with nothing else that
is new. -/
structure ChangedAt (record : Record τ) (place : Place) (new : Cell τ) (after : Record τ) :
    Prop where
  cell : after.cellAt? place = some new
  /-- The cells of the other columns are as they were. -/
  others : ∀ other, other ≠ place → after.cellAt? other = record.cellAt? other
  /-- So are the fields with their names, and the ignored fields with all they hold. -/
  outline : after.outline = record.outline

/-- A record of which a single leaf is exchanged is changed at the place of that leaf. -/
theorem ChangedAt.of_cells {record after : Record τ} {i : Nat} {place : Place} {new : Cell τ}
    (hplace : record.layout.places[i]? = some place) (hlayout : after.layout = record.layout)
    (houtline : after.outline = record.outline) (hnew : after.cells[i]? = some new)
    (hkept : ∀ k, k ≠ i → after.cells[k]? = record.cells[k]?) :
    record.ChangedAt place new after := by
  refine ⟨?_, fun other hne => ?_, houtline⟩
  · rw [cellAt?_eq_getElem (hlayout ▸ hplace), hnew]
  · by_cases hother : other ∈ record.layout.places
    · obtain ⟨k, hk⟩ := List.mem_iff_getElem?.mp hother
      have hki : k ≠ i := by
        rintro rfl
        exact hne (Option.some.inj (hk.symm.trans hplace))
      rw [cellAt?_eq_getElem hk, cellAt?_eq_getElem (hlayout ▸ hk), hkept k hki]
    · have hnone : ∀ {other' : Record τ}, other'.layout = record.layout →
          other'.cellAt? other = none := by
        intro other' hsame
        refine Option.eq_none_iff_forall_ne_some.mpr fun cell hcell => hother ?_
        exact hsame ▸ mem_places_of_cellAt? hcell
      rw [hnone hlayout, hnone rfl]

/-! ## Writing a single leaf -/

/-- A single route claims the leaf it leads to, and no other one. -/
theorem claimedBy_single_iff {record : Record τ} {i k j : Nat} (hleaf : i < record.cells.length) :
    record.ClaimedBy [some i] k j ↔ k = i ∧ j = 0 := by
  rw [ClaimedBy, claims_eq_some_iff]
  cases j with
  | zero =>
      simp only [List.getElem?_cons_zero, Option.some.injEq, Nat.not_lt_zero, false_implies,
        implies_true, and_true]
      constructor
      · rintro ⟨hik, -⟩
        exact hik.symm
      · rintro rfl
        exact ⟨rfl, hleaf⟩
  | succ j => simp

/-- **A value that converts changes the record at the place of the leaf**, and nowhere
else. -/
theorem write_changedAt {record : Record τ} {i : Nat} {place : Place} {cell new : Cell τ}
    {value : Value} (hplace : record.layout.places[i]? = some place)
    (hcell : record.cells[i]? = some cell) (hvalue : cell.receive value = .ok new) :
    (record.takeRow [some i] [value]).1 = .ok () ∧
      record.ChangedAt place new (record.takeRow [some i] [value]).2 := by
  have hleaf : i < record.cells.length := (List.getElem?_eq_some_iff.mp hcell).1
  have hclaim : record.ClaimedBy [some i] i 0 := (claimedBy_single_iff hleaf).mpr ⟨rfl, rfl⟩
  have hok : (record.takeRow [some i] [value]).1 = .ok () := by
    refine (takeRow_ok_iff rfl).mpr fun k j other given hother hfound hgiven => ?_
    obtain ⟨rfl, rfl⟩ := (claimedBy_single_iff hleaf).mp hother
    rw [hcell, Option.some.injEq] at hfound
    rw [List.getElem?_cons_zero, Option.some.injEq] at hgiven
    exact ⟨new, by rw [← hfound, ← hgiven, hvalue]⟩
  refine ⟨hok, .of_cells hplace layout_takeRow (takeRow_outline rfl hok) ?_ fun k hk => ?_⟩
  · obtain ⟨written, hwritten, hfound⟩ := takeRow_written hok hclaim hcell rfl
    rw [hvalue, Except.ok.injEq] at hwritten
    rw [hfound, hwritten]
  · exact takeRow_kept _ fun j hother => hk ((claimedBy_single_iff hleaf).mp hother).1

/-- A value that does not convert leaves the record as it is. -/
theorem write_refused {record : Record τ} {i : Nat} {cell : Cell τ} {value : Value}
    {failure : Failure} (hcell : record.cells[i]? = some cell)
    (hvalue : cell.receive value = .error failure) :
    record.takeRow [some i] [value] = (.error (failure.within (.assigning 0)), record) := by
  have hleaf : i < record.cells.length := (List.getElem?_eq_some_iff.mp hcell).1
  have hclaims : claims record.cells.length [some i] = [some i] := by
    simp [claims, claimsFrom, hleaf]
  have hslots : [slotOf record.cells (some i)] = [.field (.column cell)] := by
    simp [slotOf, hcell]
  have hfilled : fillRow [slotOf record.cells (some i)] [value] =
      (.error (failure.within (.assigning 0)), [slotOf record.cells (some i)]) := by
    rw [hslots]
    simp [fillRow, fillFrom, Slot.assign, Destination.receive, hvalue]
  have hback := putBack_slotOf [some i] record.cells
  simp only [List.map_cons, List.map_nil] at hback
  simp only [takeRow, hclaims, List.map_cons, List.map_nil, hfilled, hback, refill_cells]

/-! ## The three numberings -/

/-- The columns of a record have the same numbers in the table of its type and among its
leaves. -/
structure NumberedAlike (rule : NameRule) (table : NameTable) (record : Record τ) : Prop where
  /-- The table has as many entries as there are columns. -/
  entries_length : table.length = record.layout.columnCount
  /-- The record has as many leaves. -/
  cells_length : record.cells.length = record.layout.columnCount
  /-- There are as many places. -/
  places_length : record.layout.places.length = record.layout.columnCount
  places_nodup : record.layout.places.Nodup
  /-- Where there is a column, there is one of these places. -/
  mem_places_iff : ∀ place,
    place ∈ record.layout.places ↔ (record.layout.nameAt? rule place).isSome
  /-- The entry at a position tells of the column at the place in that position: it has its
  name, the position, and the number of inner records around it. -/
  entry : ∀ (i : Nat) (place : Place), record.layout.places[i]? = some place →
    ∃ name, record.layout.nameAt? rule place = some name ∧
      table.entries[i]? = some { name, slot := i, depth := place.depth }
  /-- The leaf at a position is the cell of the column at that place. -/
  leaf : ∀ (i : Nat) (place : Place), record.layout.places[i]? = some place →
    ∃ cell, record.cellAt? place = some cell ∧ record.cells[i]? = some cell
  /-- A value that is written through a position changes the record at that place. -/
  written : ∀ (i : Nat) (place : Place) (cell new : Cell τ) (value : Value)
    (info : RecordInfo τ), record.layout.places[i]? = some place →
    record.cellAt? place = some cell → cell.receive value = .ok new →
      ∃ after, record.ChangedAt place new after ∧
        (Destination.record info record).withSlots [some i] (fillRow · [value]) =
          (.ok (.ok ()), .record info after)
  /-- A value that does not convert changes nothing. -/
  refused : ∀ (i : Nat) (place : Place) (cell : Cell τ) (value : Value) (failure : Failure)
    (info : RecordInfo τ), record.layout.places[i]? = some place →
    record.cellAt? place = some cell → cell.receive value = .error failure →
      (Destination.record info record).withSlots [some i] (fillRow · [value]) =
        (.ok (.error (failure.within (.assigning 0))), .record info record)

/-- **The three numberings agree**, for records of any shape and whatever else the naming
was used for. -/
theorem numbered_alike (naming : Naming) (type : String) (record : Record τ) :
    NumberedAlike naming.rule (naming.table ⟨type, record.layout⟩).1 record := by
  have hleaf : ∀ {i : Nat} {place : Place} {cell : Cell τ},
      record.layout.places[i]? = some place → record.cellAt? place = some cell →
        record.cells[i]? = some cell :=
    fun hplace hcell => (cellAt?_eq_getElem hplace).symm.trans hcell
  rw [Naming.table_fst]
  refine
    { entries_length := NameTable.ofLayout_length _ _
      cells_length := record.cells_length
      places_length := record.layout.places_length
      places_nodup := record.layout.places_nodup
      mem_places_iff := fun place => Layout.mem_places_iff
      entry := fun i place hplace => ?_
      leaf := fun i place hplace => ?_
      written := fun i place cell new value info hplace hcell hvalue => ?_
      refused := fun i place cell value failure info hplace hcell hvalue => ?_ }
  · obtain ⟨name, hname⟩ : ∃ name, record.layout.nameAt? naming.rule place = some name :=
      Option.isSome_iff_exists.mp (Layout.mem_places_iff.mp (List.mem_of_getElem? hplace))
    refine ⟨name, hname, NameTable.entries_getElem?_eq_some_iff.mpr ⟨rfl, ?_⟩⟩
    exact ⟨place, hplace, hname, rfl⟩
  · have hbound : i < record.cells.length := by
      rw [record.cells_length, ← record.layout.places_length]
      exact (List.getElem?_eq_some_iff.mp hplace).1
    exact ⟨_, (cellAt?_eq_getElem hplace).trans (List.getElem?_eq_getElem hbound),
      List.getElem?_eq_getElem hbound⟩
  · obtain ⟨hok, hchanged⟩ := write_changedAt hplace (hleaf hplace hcell) hvalue
    refine ⟨_, hchanged, ?_⟩
    rw [← hok]
    rfl
  · have hsame := write_refused (hleaf hplace hcell) hvalue
    have htaken : (Destination.record info record).withSlots [some i] (fillRow · [value]) =
        (.ok (record.takeRow [some i] [value]).1,
          .record info (record.takeRow [some i] [value]).2) := rfl
    rw [htaken, hsame]

end RowBind.Record
