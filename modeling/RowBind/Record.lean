import RowBind.Record.Layout
import RowBind.Column.Family

/-!
# Records

A record is a tree of fields with contents.  Its leaves are the cells of its columns,
from the first field to the last and through inner records on the way; a row is routed
to leaves by their position in that order.  Ignored fields have a content and are no
leaves.

Main statements: `cells_length`, a record has as many leaves as its layout has columns;
`cells_refill` and `refill_cells`, the leaves can be taken out, changed and put back;
`layout_refill`, which does not change the layout.
-/

namespace RowBind

/-- The fields of a record, in the order of their declaration, with their contents. -/
inductive Record (τ : Type) [ColumnFamily τ] where
  | nil
  /-- A column, and the fields behind it. -/
  | column (field : FieldName) (cell : Cell τ) (rest : Record τ)
  /-- A field that takes no part in rows, and the fields behind it. -/
  | ignored (ident : String) (cell : Cell τ) (rest : Record τ)
  /-- A record whose columns keep their names, and the fields behind it. -/
  | embedded (field : FieldName) (inner rest : Record τ)
  /-- A record whose columns are reached through its name, and the fields behind it. -/
  | nested (field : FieldName) (inner rest : Record τ)

namespace Record

variable {τ : Type} [ColumnFamily τ]

instance : Inhabited (Record τ) := ⟨nil⟩

/-- The visible fields, without their contents. -/
def layout : Record τ → Layout
  | nil => .nil
  | column field _ rest => .column field rest.layout
  | ignored _ _ rest => rest.layout
  | embedded field inner rest => .embedded field inner.layout rest.layout
  | nested field inner rest => .nested field inner.layout rest.layout

/-- The leaves: the cells of all columns, in order. -/
def cells : Record τ → List (Cell τ)
  | nil => []
  | column _ cell rest => cell :: rest.cells
  | ignored _ _ rest => rest.cells
  | embedded _ inner rest => inner.cells ++ rest.cells
  | nested _ inner rest => inner.cells ++ rest.cells

/-- The record with the given cells for its leaves, and the cells left over.  Where cells
are missing the record keeps its own. -/
def refillFrom : Record τ → List (Cell τ) → Record τ × List (Cell τ)
  | nil, cells => (nil, cells)
  | column field cell rest, cells =>
    match cells with
    | [] => (column field cell rest, [])
    | new :: cells =>
      let (rest, cells) := rest.refillFrom cells
      (column field new rest, cells)
  | ignored ident cell rest, cells =>
    let (rest, cells) := rest.refillFrom cells
    (ignored ident cell rest, cells)
  | embedded field inner rest, cells =>
    let (inner, cells) := inner.refillFrom cells
    let (rest, cells) := rest.refillFrom cells
    (embedded field inner rest, cells)
  | nested field inner rest, cells =>
    let (inner, cells) := inner.refillFrom cells
    let (rest, cells) := rest.refillFrom cells
    (nested field inner rest, cells)

/-- The record with the given cells for its leaves. -/
def refill (record : Record τ) (cells : List (Cell τ)) : Record τ :=
  (record.refillFrom cells).1

theorem cells_length (record : Record τ) : record.cells.length = record.layout.columnCount := by
  induction record with
  | nil => rfl
  | column _ _ _ ih => simp [cells, layout, Layout.columnCount, ih, Nat.add_comm]
  | ignored _ _ _ ih => simpa [cells, layout] using ih
  | embedded _ _ _ ihi ihr => simp [cells, layout, Layout.columnCount, ihi, ihr]
  | nested _ _ _ ihi ihr => simp [cells, layout, Layout.columnCount, ihi, ihr]

theorem layout_refillFrom (record : Record τ) (new : List (Cell τ)) :
    (record.refillFrom new).1.layout = record.layout := by
  induction record generalizing new with
  | nil => rfl
  | column _ _ _ ih => cases new <;> simp [refillFrom, layout, ih]
  | ignored _ _ _ ih => simp [refillFrom, layout, ih]
  | embedded _ _ _ ihi ihr => simp [refillFrom, layout, ihi, ihr]
  | nested _ _ _ ihi ihr => simp [refillFrom, layout, ihi, ihr]

/-- Putting cells back does not change the layout. -/
theorem layout_refill (record : Record τ) (new : List (Cell τ)) :
    (record.refill new).layout = record.layout :=
  record.layout_refillFrom new

/-- The record takes as many cells from the front of a list as it has leaves, puts them in
their place, and leaves the others. -/
def PutsBack (record : Record τ) : Prop :=
  ∀ new others : List (Cell τ), new.length = record.cells.length →
    (record.refillFrom (new ++ others)).2 = others ∧
      (record.refillFrom (new ++ others)).1.cells = new

/-- An inner record and the fields behind it take their cells one after the other. -/
theorem PutsBack.through {inner tail : Record τ} (hinner : inner.PutsBack)
    (htail : tail.PutsBack) {new others : List (Cell τ)}
    (h : new.length = inner.cells.length + tail.cells.length) :
    (tail.refillFrom (inner.refillFrom (new ++ others)).2).2 = others ∧
      (inner.refillFrom (new ++ others)).1.cells ++
        (tail.refillFrom (inner.refillFrom (new ++ others)).2).1.cells = new := by
  have hfront : (new.take inner.cells.length).length = inner.cells.length := by
    rw [List.length_take]
    omega
  have hback : (new.drop inner.cells.length).length = tail.cells.length := by
    rw [List.length_drop]
    omega
  obtain ⟨hleft, hfirst⟩ := hinner _ (new.drop inner.cells.length ++ others) hfront
  obtain ⟨hothers, hlast⟩ := htail _ others hback
  rw [← List.append_assoc, List.take_append_drop] at hleft hfirst
  rw [hleft, hfirst, hothers, hlast]
  exact ⟨rfl, List.take_append_drop _ _⟩

theorem putsBack (record : Record τ) : record.PutsBack := by
  intro new others h
  induction record generalizing new others with
  | nil =>
    have hnew : new = [] := by simpa [cells] using h
    simp [refillFrom, hnew, cells]
  | column field cell tail ih =>
    cases new with
    | nil => simp [cells] at h
    | cons c new =>
      obtain ⟨hr, hc⟩ := ih new others (by simpa [cells] using h)
      simp [refillFrom, cells, hr, hc]
  | ignored ident cell tail ih =>
    obtain ⟨hr, hc⟩ := ih new others (by simpa [cells] using h)
    simp [refillFrom, cells, hr, hc]
  | embedded field inner tail ihi iht =>
    have hlength : new.length = inner.cells.length + tail.cells.length := by
      simpa [cells] using h
    exact PutsBack.through ihi iht hlength
  | nested field inner tail ihi iht =>
    have hlength : new.length = inner.cells.length + tail.cells.length := by
      simpa [cells] using h
    exact PutsBack.through ihi iht hlength

/-- Cells that were put back are the leaves. -/
theorem cells_refill (record : Record τ) (new : List (Cell τ))
    (h : new.length = record.cells.length) : (record.refill new).cells = new := by
  simpa [refill] using (record.putsBack new [] h).2

theorem refillFrom_cells (record : Record τ) (rest : List (Cell τ)) :
    record.refillFrom (record.cells ++ rest) = (record, rest) := by
  induction record generalizing rest with
  | nil => rfl
  | column _ _ _ ih => simp [refillFrom, cells, ih]
  | ignored _ _ _ ih => simp [refillFrom, cells, ih]
  | embedded _ _ _ ihi ihr => simp [refillFrom, cells, ihi, ihr]
  | nested _ _ _ ihi ihr => simp [refillFrom, cells, ihi, ihr]

/-- Putting the leaves back as they are changes nothing. -/
theorem refill_cells (record : Record τ) : record.refill record.cells = record := by
  have h := record.refillFrom_cells []
  rw [List.append_nil] at h
  simp [refill, h]

end Record

end RowBind
