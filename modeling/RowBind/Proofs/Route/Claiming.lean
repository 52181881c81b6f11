import RowBind.Proofs.Route.Filling
import RowBind.Route.Buffer

/-!
# Leaves that are claimed once

A row is filled into one slot per route.  A slot leads to a leaf exactly if its route does,
the leaf exists, and no earlier route leads there; every other slot discards what it is given.
So no two slots lead to the same leaf, and every leaf that exists and that some route leads to
is led to by one slot: the record then holds what that slot was left with, and what it held
before in all other places.

The routes may be any: they may repeat a position, or name one beyond the last leaf.  And it
makes no difference what the buffer of the slots was used for before, or that a destination
was refused.

Main statements: `claimedBy_iff`, when a slot leads to a leaf; `exists_firstTo`, a leaf that is
routed to is led to; and `claims_once`, all of it for any buffer, record and routes.
-/

namespace RowBind

variable {τ : Type} [ColumnFamily τ] {routes : Routes} {fields : Record τ}

/-- The route at position `i` is the first one to a leaf, which is one of `size`. -/
structure Routes.FirstTo (routes : Routes) (size leaf i : Nat) : Prop where
  leads : routes[i]? = some (some leaf)
  exists_leaf : leaf < size
  first : ∀ j < i, routes[j]? ≠ some (some leaf)

/-- There is only one first route to a leaf. -/
theorem Routes.FirstTo.unique {size leaf i j : Nat} (hi : routes.FirstTo size leaf i)
    (hj : routes.FirstTo size leaf j) : i = j := by
  rcases Nat.lt_trichotomy i j with hlt | heq | hlt
  · exact absurd hi.leads (hj.first i hlt)
  · exact heq
  · exact absurd hj.leads (hi.first j hlt)

/-- A leaf that is routed to has a first route to it. -/
theorem Routes.exists_firstTo {size leaf : Nat} (hleaf : leaf < size)
    (hmem : some leaf ∈ routes) : ∃ i, routes.FirstTo size leaf i := by
  induction routes with
  | nil => cases hmem
  | cons route routes ih =>
      by_cases hroute : route = some leaf
      · exact ⟨0, by simp [hroute], hleaf, fun j hj => absurd hj (Nat.not_lt_zero j)⟩
      · have hlater : some leaf ∈ routes :=
          (List.mem_cons.mp hmem).resolve_left (Ne.symm hroute)
        obtain ⟨i, hi⟩ := ih hlater
        refine ⟨i + 1, by simpa using hi.leads, hleaf, fun j hj => ?_⟩
        cases j with
        | zero => simpa using hroute
        | succ j => simpa using hi.first j (Nat.lt_of_succ_lt_succ hj)

namespace Record

/-- A leaf is claimed through the first route to it. -/
theorem claimedBy_iff {leaf i : Nat} :
    fields.ClaimedBy routes leaf i ↔ routes.FirstTo fields.cells.length leaf i := by
  constructor
  · intro hclaim
    obtain ⟨hleads, hleaf, hfirst⟩ := claims_eq_some_iff.mp hclaim
    exact ⟨hleads, hleaf, hfirst⟩
  · exact fun h => claims_eq_some_iff.mpr ⟨h.leads, h.exists_leaf, h.first⟩

/-- The slots for a row that goes to the fields of a record. -/
def slotsFor (fields : Record τ) (routes : Routes) : List (Slot τ) :=
  (claims fields.cells.length routes).map (slotOf fields.cells)

theorem slotsFor_length (fields : Record τ) (routes : Routes) :
    (fields.slotsFor routes).length = routes.length := by
  rw [slotsFor, List.length_map, claims_length]

/-- A slot leads to the leaf that its route is the first to reach, and to nothing else. -/
theorem slotsFor_field_iff {i : Nat} {target : Destination τ} :
    (fields.slotsFor routes)[i]? = some (.field target) ↔
      ∃ leaf cell, routes.FirstTo fields.cells.length leaf i ∧
        fields.cells[leaf]? = some cell ∧ target = .column cell := by
  constructor
  · intro hslot
    obtain ⟨leaf, cell, hclaim, hcell, htarget⟩ := claimedBy_of_slot hslot
    exact ⟨leaf, cell, claimedBy_iff.mp hclaim, hcell, htarget⟩
  · rintro ⟨leaf, cell, hfirst, hcell, rfl⟩
    exact (claimedBy_iff.mpr hfirst).slot hcell

/-- All other slots discard. -/
theorem slotsFor_discard_iff {i : Nat} :
    (fields.slotsFor routes)[i]? = some .discard ↔
      i < routes.length ∧ ∀ leaf, ¬ routes.FirstTo fields.cells.length leaf i := by
  constructor
  · intro hslot
    have hlength := (List.getElem?_eq_some_iff.mp hslot).1
    rw [slotsFor_length] at hlength
    refine ⟨hlength, fun leaf hfirst => ?_⟩
    have hcell := List.getElem?_eq_getElem hfirst.exists_leaf
    have hfield := slotsFor_field_iff.mpr ⟨leaf, _, hfirst, hcell, rfl⟩
    rw [hslot] at hfield
    cases hfield
  · rintro ⟨hlength, hnone⟩
    rw [← slotsFor_length fields] at hlength
    cases hslot : (fields.slotsFor routes)[i] with
    | discard => rw [List.getElem?_eq_getElem hlength, hslot]
    | field target =>
        obtain ⟨leaf, -, hfirst, -⟩ :=
          slotsFor_field_iff.mp (List.getElem?_eq_some_iff.mpr ⟨hlength, hslot⟩)
        exact absurd hfirst (hnone leaf)

/-- The record with its leaves as slots hold them. -/
def ofSlotsFor (fields : Record τ) (routes : Routes) (slots : List (Slot τ)) : Record τ :=
  fields.refill (putBack (claims fields.cells.length routes) slots fields.cells)

theorem ofSlotsFor_cells (fields : Record τ) (routes : Routes) (slots : List (Slot τ)) :
    (fields.ofSlotsFor routes slots).cells =
      putBack (claims fields.cells.length routes) slots fields.cells :=
  cells_refill fields _ (putBack_length _ _ _)

/-- A leaf that a slot leads to holds what the slot holds. -/
theorem ofSlotsFor_led {slots : List (Slot τ)} {leaf i : Nat} {cell : Cell τ}
    (hfirst : routes.FirstTo fields.cells.length leaf i)
    (hslot : slots[i]? = some (.field (.column cell))) :
    (fields.ofSlotsFor routes slots).cells[leaf]? = some cell := by
  have hclaim : fields.ClaimedBy routes leaf i := claimedBy_iff.mpr hfirst
  rw [ofSlotsFor_cells]
  exact putBack_getElem_of_claimed hclaim (fun j hj => claims_inj hj hclaim) hslot
    hfirst.exists_leaf

/-- A leaf that no slot leads to holds what it held before. -/
theorem ofSlotsFor_kept (slots : List (Slot τ)) {leaf : Nat}
    (h : ∀ i, ¬ routes.FirstTo fields.cells.length leaf i) :
    (fields.ofSlotsFor routes slots).cells[leaf]? = fields.cells[leaf]? := by
  rw [ofSlotsFor_cells]
  exact putBack_getElem_of_unclaimed (fun i hclaim => h i (claimedBy_iff.mp hclaim)) _ _

end Record

/-- What is to be expected of a row that goes through a buffer to the fields of a record: the
slots that it is filled into, and the record then. -/
structure ClaimsOnce (buffer : SlotBuffer τ) (info : RecordInfo τ) (fields : Record τ)
    (routes : Routes) (slots : List (Slot τ)) (after : List (Slot τ) → Record τ) : Prop where
  /-- The row is filled into the slots; they and the leaves behind them are all that changes.
  What the buffer was used for before makes no difference. -/
  runs : ∀ {α : Type} (fill : List (Slot τ) → α × List (Slot τ)),
    buffer.withSlots (.record info fields) routes fill =
      (.ok (fill slots).1, .record info (after (fill slots).2), {})
  /-- There is one slot for each route. -/
  one_each : slots.length = routes.length
  /-- It leads to the leaf that its route is the first to reach. -/
  field_iff : ∀ {i : Nat} {target : Destination τ}, slots[i]? = some (.field target) ↔
    ∃ leaf cell, routes.FirstTo fields.cells.length leaf i ∧
      fields.cells[leaf]? = some cell ∧ target = .column cell
  /-- Otherwise it discards. -/
  discard_iff : ∀ {i : Nat}, slots[i]? = some .discard ↔
    i < routes.length ∧ ∀ leaf, ¬ routes.FirstTo fields.cells.length leaf i
  /-- What the slot holds in the end, the leaf does. -/
  led : ∀ {filled : List (Slot τ)} {leaf i : Nat} {cell : Cell τ},
    routes.FirstTo fields.cells.length leaf i → filled[i]? = some (.field (.column cell)) →
      (after filled).cells[leaf]? = some cell
  /-- All other leaves are as before. -/
  kept : ∀ (filled : List (Slot τ)) {leaf : Nat},
    (∀ i, ¬ routes.FirstTo fields.cells.length leaf i) →
      (after filled).cells[leaf]? = fields.cells[leaf]?
  /-- No two slots lead to the same leaf. -/
  apart : ∀ {leaf i j : Nat}, routes.FirstTo fields.cells.length leaf i →
    routes.FirstTo fields.cells.length leaf j → i = j
  /-- Every leaf that exists and is routed to is led to. -/
  reached : ∀ {leaf : Nat}, leaf < fields.cells.length → some leaf ∈ routes →
    ∃ i, routes.FirstTo fields.cells.length leaf i

/-- **Leaves are claimed once**, whatever the buffer was used for before, and however the routes
repeat positions or name some that do not exist. -/
theorem claims_once (buffer : SlotBuffer τ) (info : RecordInfo τ) (fields : Record τ)
    (routes : Routes) :
    ClaimsOnce buffer info fields routes (fields.slotsFor routes) (fields.ofSlotsFor routes) where
  runs fill := by
    simp only [SlotBuffer.withSlots, recycle_eq_nil, List.nil_append, claimAddresses_addresses]
    rfl
  one_each := fields.slotsFor_length routes
  field_iff := Record.slotsFor_field_iff
  discard_iff := Record.slotsFor_discard_iff
  led := Record.ofSlotsFor_led
  kept := Record.ofSlotsFor_kept
  apart := Routes.FirstTo.unique
  reached := Routes.exists_firstTo

end RowBind
