import RowBind.Naming
import RowBind.Record

/-!
# Places in a record

A place says where a column lies among the visible fields of a record: so many fields on,
and then perhaps into the record that is found there.  It belongs to the tree of the fields
and to no numbering of them.  By following a place one comes to the name of a column in a
layout, and to its cell in a record; the two walk over the fields apart from each other.

A layout has its places in the order in which the fields are declared, those of an inner
record in the stead of the field that holds it.

Main statements: `mem_places_iff` and `places_nodup`, every column has one place;
`namedColumns_map_some`, the columns of a layout are named place by place; and
`cells_map_some`, the leaves of a record are its cells place by place.
-/

namespace RowBind

/-- Where a column lies among the fields of a record. -/
inductive Place where
  /-- The first field. -/
  | here
  /-- Among the fields behind the first one. -/
  | past (place : Place)
  /-- In the record that the first field holds. -/
  | inside (place : Place)
deriving DecidableEq, Repr

/-- The number of inner records that are entered on the way. -/
def Place.depth : Place → Nat
  | here => 0
  | past place => place.depth
  | inside place => place.depth + 1

namespace Layout

/-- The full name of the column at a place, if there is one: the names of the nested records
that are entered, each with a point, and that of the column itself. -/
def nameAt? (rule : NameRule) : Layout → Place → Option String
  | column field _, .here => some (field.segment rule)
  | column _ rest, .past place => rest.nameAt? rule place
  | embedded _ inner _, .inside place => inner.nameAt? rule place
  | embedded _ _ rest, .past place => rest.nameAt? rule place
  | nested field inner _, .inside place =>
    (inner.nameAt? rule place).map (field.segment rule ++ "." ++ ·)
  | nested _ _ rest, .past place => rest.nameAt? rule place
  | _, _ => none

/-- The places of the columns, in the order of the declaration. -/
def places : Layout → List Place
  | nil => []
  | column _ rest => .here :: rest.places.map .past
  | embedded _ inner rest => inner.places.map .inside ++ rest.places.map .past
  | nested _ inner rest => inner.places.map .inside ++ rest.places.map .past

theorem places_length (layout : Layout) : layout.places.length = layout.columnCount := by
  induction layout with
  | nil => rfl
  | column _ _ ih => simp [places, columnCount, ih, Nat.add_comm]
  | embedded _ _ _ ihi ihr => simp [places, columnCount, ihi, ihr]
  | nested _ _ _ ihi ihr => simp [places, columnCount, ihi, ihr]

/-- Places inside a record and places behind it differ. -/
theorem nodup_inside_past {inner rest : List Place} (hinner : inner.Nodup)
    (hrest : rest.Nodup) : (inner.map Place.inside ++ rest.map Place.past).Nodup := by
  refine List.nodup_append.mpr ⟨?_, ?_, ?_⟩
  · exact List.Pairwise.map Place.inside (fun a b hne heq => hne (Place.inside.inj heq)) hinner
  · exact List.Pairwise.map Place.past (fun a b hne heq => hne (Place.past.inj heq)) hrest
  · intro a ha b hb
    obtain ⟨_, -, rfl⟩ := List.mem_map.mp ha
    obtain ⟨_, -, rfl⟩ := List.mem_map.mp hb
    exact Place.noConfusion

/-- No column has two places. -/
theorem places_nodup (layout : Layout) : layout.places.Nodup := by
  induction layout with
  | nil => exact List.nodup_nil
  | column field rest ih =>
      refine List.nodup_cons.mpr ⟨by simp, ?_⟩
      exact List.Pairwise.map Place.past (fun a b hne heq => hne (Place.past.inj heq)) ih
  | embedded field inner rest ihi ihr => exact nodup_inside_past ihi ihr
  | nested field inner rest ihi ihr => exact nodup_inside_past ihi ihr

/-- The places of a layout are those at which there is a column. -/
theorem mem_places_iff {rule : NameRule} {layout : Layout} {place : Place} :
    place ∈ layout.places ↔ (layout.nameAt? rule place).isSome := by
  induction layout generalizing place with
  | nil => simp [places, nameAt?]
  | column field rest ih => cases place <;> simp [places, nameAt?, ih]
  | embedded field inner rest ihi ihr => cases place <;> simp [places, nameAt?, ihi, ihr]
  | nested field inner rest ihi ihr => cases place <;> simp [places, nameAt?, ihi, ihr]

/-- **The columns of a layout are named place by place.** -/
theorem namedColumns_map_some (rule : NameRule) (lead : String) (depth : Nat)
    (layout : Layout) :
    (layout.namedColumns rule lead depth).map some = layout.places.map fun place =>
      (layout.nameAt? rule place).map fun name => (lead ++ name, depth + place.depth) := by
  induction layout generalizing lead depth with
  | nil => rfl
  | column field rest ih => simp [namedColumns, places, nameAt?, Place.depth, ih, Function.comp_def]
  | embedded field inner rest ihi ihr =>
      simp [namedColumns, places, nameAt?, Place.depth, ihi, ihr, Function.comp_def,
        Nat.add_assoc, Nat.add_comm 1]
  | nested field inner rest ihi ihr =>
      simp [namedColumns, places, nameAt?, Place.depth, ihi, ihr, Function.comp_def,
        Nat.add_assoc, Nat.add_comm 1, String.append_assoc]

/-- The entry tells of a column of the layout: the position is that of its place, and the
name and the depth are those that the place has. -/
def Lists (layout : Layout) (rule : NameRule) (entry : ColumnEntry) : Prop :=
  ∃ place, layout.places[entry.slot]? = some place ∧
    layout.nameAt? rule place = some entry.name ∧ entry.depth = place.depth

/-- There is no column of the name. -/
def Lacks (layout : Layout) (rule : NameRule) (name : String) : Prop :=
  ∀ place, layout.nameAt? rule place ≠ some name

end Layout

/-- A layout names the column at a position as its place says. -/
theorem Layout.namedColumns_getElem?_eq_some_iff {rule : NameRule} {layout : Layout} {i : Nat}
    {name : String} {depth : Nat} :
    (layout.namedColumns rule "" 0)[i]? = some (name, depth) ↔
      ∃ place, layout.places[i]? = some place ∧ layout.nameAt? rule place = some name ∧
        depth = place.depth := by
  have hnamed := congrArg (·[i]?) (layout.namedColumns_map_some rule "" 0)
  simp only [List.getElem?_map, String.empty_append, Nat.zero_add] at hnamed
  cases hplace : layout.places[i]? with
  | none => simp_all
  | some place =>
      rw [hplace, Option.map_some] at hnamed
      obtain ⟨column, hcolumn, hsome⟩ := Option.map_eq_some_iff.mp hnamed
      obtain ⟨found, hfound, rfl⟩ := Option.map_eq_some_iff.mp hsome.symm
      simp [hcolumn, hfound, eq_comm]

/-- The entries of a table tell of the columns in the order of their places. -/
theorem NameTable.entries_getElem?_eq_some_iff {rule : NameRule} {layout : Layout} {i : Nat}
    {entry : ColumnEntry} :
    (ofLayout rule layout).entries[i]? = some entry ↔
      entry.slot = i ∧ layout.Lists rule entry := by
  have hentry : (ofLayout rule layout).entries[i]? =
      ((layout.namedColumns rule "" 0)[i]?).map fun (name, depth) => ⟨name, i, depth⟩ := by
    simp [ofLayout, List.getElem?_map, List.getElem?_zipIdx, Function.comp_def]
  rw [hentry, Option.map_eq_some_iff]
  constructor
  · rintro ⟨⟨name, depth⟩, hcolumn, rfl⟩
    exact ⟨rfl, Layout.namedColumns_getElem?_eq_some_iff.mp hcolumn⟩
  · rintro ⟨rfl, hlists⟩
    exact ⟨(entry.name, entry.depth), Layout.namedColumns_getElem?_eq_some_iff.mpr hlists, rfl⟩

/-- A table has the columns of its layout, also when they are sorted. -/
theorem NameTable.mem_byDepth_iff {rule : NameRule} {layout : Layout} {entry : ColumnEntry} :
    entry ∈ (ofLayout rule layout).byDepth ↔ layout.Lists rule entry := by
  refine List.mem_mergeSort.trans ⟨fun hmem => ?_, fun hlists => ?_⟩
  · obtain ⟨i, hat⟩ := List.mem_iff_getElem?.mp hmem
    exact (entries_getElem?_eq_some_iff.mp hat).2
  · exact List.mem_of_getElem? (entries_getElem?_eq_some_iff.mpr ⟨rfl, hlists⟩)

/-- A layout lacks a name that none of its columns has. -/
theorem Layout.lacks_iff {rule : NameRule} {layout : Layout} {name : String} :
    layout.Lacks rule name ↔ ∀ entry, layout.Lists rule entry → entry.name ≠ name := by
  constructor
  · rintro hlacks entry ⟨place, -, hname, -⟩ rfl
    exact hlacks place hname
  · intro hnone place hplace
    obtain ⟨i, hi⟩ := List.mem_iff_getElem?.mp
      (mem_places_iff.mpr (Option.isSome_iff_exists.mpr ⟨name, hplace⟩))
    exact hnone ⟨name, i, place.depth⟩ ⟨place, hi, hplace, rfl⟩ rfl

/-- Nothing is found under a name that the layout lacks, and only then. -/
theorem NameTable.find?_eq_none_iff {rule : NameRule} {layout : Layout} {name : String} :
    (ofLayout rule layout).find? name = none ↔ layout.Lacks rule name := by
  rw [find?, List.find?_eq_none, Layout.lacks_iff]
  simp only [mem_byDepth_iff, beq_iff_eq]

namespace Record

variable {τ : Type} [ColumnFamily τ]

/-- The cell of the column at a place, if there is one.  Ignored fields are not visible and
are passed over. -/
def cellAt? : Record τ → Place → Option (Cell τ)
  | ignored _ _ rest, place => rest.cellAt? place
  | column _ cell _, .here => some cell
  | column _ _ rest, .past place => rest.cellAt? place
  | embedded _ inner _, .inside place => inner.cellAt? place
  | embedded _ _ rest, .past place => rest.cellAt? place
  | nested _ inner _, .inside place => inner.cellAt? place
  | nested _ _ rest, .past place => rest.cellAt? place
  | _, _ => none

/-- **The leaves of a record are its cells place by place.** -/
theorem cells_map_some (record : Record τ) :
    record.cells.map some = record.layout.places.map record.cellAt? := by
  induction record with
  | nil => rfl
  | column field cell rest ih =>
      simp [cells, layout, Layout.places, cellAt?, ih, Function.comp_def]
  | ignored ident cell rest ih =>
      rw [cells, layout, ih]
      exact List.map_congr_left fun place _ => by rw [cellAt?]
  | embedded field inner rest ihi ihr =>
      simp [cells, layout, Layout.places, cellAt?, ihi, ihr, Function.comp_def]
  | nested field inner rest ihi ihr =>
      simp [cells, layout, Layout.places, cellAt?, ihi, ihr, Function.comp_def]

/-- There is a cell at the places of the layout only. -/
theorem mem_places_of_cellAt? {record : Record τ} {place : Place} {cell : Cell τ}
    (h : record.cellAt? place = some cell) : place ∈ record.layout.places := by
  induction record generalizing place with
  | nil => cases place <;> simp [cellAt?] at h
  | column field cell rest ih =>
      cases place <;> simp_all [cellAt?, layout, Layout.places]
  | ignored ident cell rest ih => exact ih (by simpa [cellAt?] using h)
  | embedded field inner rest ihi ihr =>
      cases place <;> simp_all [cellAt?, layout, Layout.places]
  | nested field inner rest ihi ihr =>
      cases place <;> simp_all [cellAt?, layout, Layout.places]

/-- The leaf at a position is the cell at the place in that position. -/
theorem cellAt?_eq_getElem {record : Record τ} {i : Nat} {place : Place}
    (h : record.layout.places[i]? = some place) : record.cellAt? place = record.cells[i]? := by
  have hcells := congrArg (·[i]?) record.cells_map_some
  simp only [List.getElem?_map, h, Option.map_some] at hcells
  cases hcell : record.cells[i]? with
  | none => simp [hcell] at hcells
  | some cell => simpa [hcell] using hcells.symm

end Record

end RowBind
