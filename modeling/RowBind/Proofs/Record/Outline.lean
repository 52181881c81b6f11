import RowBind.Record

/-!
# The outline of a record

What a record consists of apart from the contents of its leaves is its outline: the tree of
its fields with their names, the types of its leaves, and its ignored fields with all they
hold.  Exchanging the leaves of a record for others of the same types leaves the outline as
it is.

Main statement: `outline_refill`.
-/

namespace RowBind.Record

variable {τ : Type} [ColumnFamily τ]

/-- The record with every leaf as it is before anything is assigned to it. -/
def outline : Record τ → Record τ
  | nil => nil
  | column field cell rest => column field (.ofType cell.type) rest.outline
  | ignored ident cell rest => ignored ident cell rest.outline
  | embedded field inner rest => embedded field inner.outline rest.outline
  | nested field inner rest => nested field inner.outline rest.outline

/-- Cells of the right types may be put in the place of the leaves. -/
def KeepsOutline (record : Record τ) : Prop :=
  ∀ new others : List (Cell τ), new.map (·.type) = record.cells.map (·.type) →
    (record.refillFrom (new ++ others)).1.outline = record.outline

/-- An inner record and the fields behind it keep their outlines one after the other. -/
theorem KeepsOutline.through {inner tail : Record τ} (hinner : inner.KeepsOutline)
    (htail : tail.KeepsOutline) {new : List (Cell τ)} (others : List (Cell τ))
    (h : new.map (·.type) = (inner.cells ++ tail.cells).map (·.type)) :
    (inner.refillFrom (new ++ others)).1.outline = inner.outline ∧
      (tail.refillFrom (inner.refillFrom (new ++ others)).2).1.outline = tail.outline := by
  rw [List.map_append] at h
  obtain ⟨front, back, rfl, hfront, hback⟩ := List.map_eq_append_iff.mp h
  have hlength : front.length = inner.cells.length := by
    simpa using congrArg List.length hfront
  rw [List.append_assoc, (inner.putsBack front (back ++ others) hlength).1]
  exact ⟨hinner front (back ++ others) hfront, htail back others hback⟩

theorem keepsOutline (record : Record τ) : record.KeepsOutline := by
  intro new others h
  induction record generalizing new others with
  | nil => rfl
  | column field cell tail ih =>
      obtain ⟨first, later, rfl, htype, hlater⟩ := List.map_eq_cons_iff.mp h
      simp [refillFrom, outline, htype, ih later others hlater]
  | ignored ident cell tail ih => simpa [refillFrom, outline] using ih new others h
  | embedded field inner tail ihi iht =>
      obtain ⟨hinner, htail⟩ := KeepsOutline.through ihi iht others h
      simp [refillFrom, outline, hinner, htail]
  | nested field inner tail ihi iht =>
      obtain ⟨hinner, htail⟩ := KeepsOutline.through ihi iht others h
      simp [refillFrom, outline, hinner, htail]

/-- **Exchanging leaves changes nothing but leaves.**  A record keeps its outline if its
leaves are exchanged for others of the same types. -/
theorem outline_refill (record : Record τ) {new : List (Cell τ)}
    (h : new.map (·.type) = record.cells.map (·.type)) :
    (record.refill new).outline = record.outline := by
  simpa [refill] using record.keepsOutline new [] h

end RowBind.Record
