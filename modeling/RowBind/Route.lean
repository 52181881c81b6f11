import RowBind.Destination
import RowBind.Naming

/-!
# Routes from columns to leaves

A route says which leaf of a record a column of the result goes to, by the position of
the leaf, or that it goes nowhere.  When a row is written, every leaf is claimed by the
first column routed to it; columns that come later, and routes beyond the last leaf, go
nowhere.

Main statements: `claims_length`, every route has its claim; `claims_eq_some_iff`, a
leaf is claimed through a route exactly when it exists and no earlier route leads to it.
-/

namespace RowBind

/-- The position of the leaf that a column goes to, if it goes anywhere. -/
abbrev Route := Option Nat

/-- The routes of the columns of a result, in column order. -/
abbrev Routes := List Route

namespace Routes

/-- The index of the first column that goes nowhere. -/
def firstMissing? (routes : Routes) : Option Nat :=
  routes.findIdx? (·.isNone)

/-- The indexes of all columns that go nowhere. -/
def missing (routes : Routes) : List Nat :=
  (routes.zipIdx.filter (·.1.isNone)).map (·.2)

end Routes

/-- The routes of the named columns into a record type, with the naming that remembers
the type. -/
def Naming.routes (naming : Naming) (key : TypeKey) (columns : List String) :
    Routes × Naming × Log :=
  let (table, naming, log) := naming.table key
  (columns.map fun column => (table.find? column).map (·.slot), naming, log)

/-- The leaves that routes claim among `size` of them, those in `taken` being claimed
already. -/
def claimsFrom (size : Nat) (taken : List Nat) : List Route → List (Option Nat)
  | [] => []
  | none :: routes => none :: claimsFrom size taken routes
  | some leaf :: routes =>
    if leaf < size ∧ leaf ∉ taken then some leaf :: claimsFrom size (leaf :: taken) routes
    else none :: claimsFrom size taken routes

/-- The leaves that routes claim among `size` of them. -/
def claims (size : Nat) (routes : Routes) : List (Option Nat) :=
  claimsFrom size [] routes

theorem claimsFrom_length (size : Nat) (taken : List Nat) (routes : List Route) :
    (claimsFrom size taken routes).length = routes.length := by
  induction routes generalizing taken with
  | nil => rfl
  | cons route routes ih =>
    cases route with
    | none => simp [claimsFrom, ih]
    | some leaf => by_cases h : leaf < size ∧ leaf ∉ taken <;> simp [claimsFrom, h, ih]

theorem claims_length (size : Nat) (routes : Routes) :
    (claims size routes).length = routes.length :=
  claimsFrom_length size [] routes

theorem claimsFrom_eq_some_iff {size : Nat} {taken : List Nat} {routes : List Route} {i leaf : Nat} :
    (claimsFrom size taken routes)[i]? = some (some leaf) ↔
      routes[i]? = some (some leaf) ∧ leaf < size ∧ leaf ∉ taken ∧
        ∀ j < i, routes[j]? ≠ some (some leaf) := by
  induction routes generalizing taken i with
  | nil => simp [claimsFrom]
  | cons route routes ih =>
    cases i with
    | zero =>
      cases route with
      | none => simp [claimsFrom]
      | some first =>
        by_cases h : first < size ∧ first ∉ taken
        · simp only [claimsFrom, if_pos h, List.getElem?_cons_zero, Option.some.injEq]
          constructor
          · rintro rfl
            exact ⟨rfl, h.1, h.2, by simp⟩
          · exact And.left
        · simp only [claimsFrom, if_neg h, List.getElem?_cons_zero, Option.some.injEq]
          constructor
          · intro hf
            cases hf
          · rintro ⟨rfl, hs, ht, _⟩
            exact absurd ⟨hs, ht⟩ h
    | succ i =>
      have hshift : (∀ j < i + 1, (route :: routes)[j]? ≠ some (some leaf)) ↔
          route ≠ some leaf ∧ ∀ j < i, routes[j]? ≠ some (some leaf) := by
        constructor
        · intro h
          refine ⟨fun hr => h 0 (by omega) (by simp [hr]), fun j hj => ?_⟩
          simpa using h (j + 1) (by omega)
        · rintro ⟨hr, h⟩ j hj
          cases j with
          | zero => simpa using hr
          | succ j => simpa using h j (by omega)
      rw [hshift]
      cases route with
      | none => simp [claimsFrom, ih]
      | some first =>
        by_cases h : first < size ∧ first ∉ taken
        · simp only [claimsFrom, if_pos h, List.getElem?_cons_succ, ih, List.mem_cons, not_or,
            ne_eq, Option.some.injEq]
          constructor
          · rintro ⟨hr, hs, ⟨hne, ht⟩, hj⟩
            exact ⟨hr, hs, ht, fun he => hne he.symm, hj⟩
          · rintro ⟨hr, hs, ht, hne, hj⟩
            exact ⟨hr, hs, ⟨fun he => hne he.symm, ht⟩, hj⟩
        · simp only [claimsFrom, if_neg h, List.getElem?_cons_succ, ih, ne_eq, Option.some.injEq]
          constructor
          · rintro ⟨hr, hs, ht, hj⟩
            refine ⟨hr, hs, ht, ?_, hj⟩
            rintro rfl
            exact h ⟨hs, ht⟩
          · rintro ⟨hr, hs, ht, _, hj⟩
            exact ⟨hr, hs, ht, hj⟩

/-- A leaf is claimed through a route exactly when it exists and no earlier route leads
to it. -/
theorem claims_eq_some_iff {size : Nat} {routes : Routes} {i leaf : Nat} :
    (claims size routes)[i]? = some (some leaf) ↔
      routes[i]? = some (some leaf) ∧ leaf < size ∧
        ∀ j < i, routes[j]? ≠ some (some leaf) := by
  simp [claims, claimsFrom_eq_some_iff]

section

variable {τ : Type} [ColumnFamily τ]

/-- The slot for a claim on the given leaves. -/
def slotOf (cells : List (Cell τ)) (claim : Option Nat) : Slot τ :=
  match claim.bind (cells[·]?) with
  | some cell => .field (.column cell)
  | none => .discard

/-- The leaves, with the cells that slots hold put back where they were claimed. -/
def putBack : List (Option Nat) → List (Slot τ) → List (Cell τ) → List (Cell τ)
  | some leaf :: claims, .field (.column cell) :: slots, cells =>
    putBack claims slots (cells.set leaf cell)
  | _ :: claims, _ :: slots, cells => putBack claims slots cells
  | _, _, cells => cells

theorem putBack_length (claims : List (Option Nat)) (slots : List (Slot τ))
    (cells : List (Cell τ)) : (putBack claims slots cells).length = cells.length := by
  fun_induction putBack claims slots cells <;> simp_all

/-- Slots that were left as they are change no leaf. -/
theorem putBack_slotOf (claims : List (Option Nat)) (cells : List (Cell τ)) :
    putBack claims (claims.map (slotOf cells)) cells = cells := by
  induction claims with
  | nil => rfl
  | cons claim claims ih =>
      cases claim with
      | none => simpa [slotOf, putBack] using ih
      | some leaf =>
          cases hcell : cells[leaf]? with
          | none => simpa [slotOf, putBack, hcell] using ih
          | some cell =>
              obtain ⟨hlt, rfl⟩ := List.getElem?_eq_some_iff.mp hcell
              simpa [slotOf, putBack, hcell] using ih

/-- Runs `fill` on one slot per route, each leading to the leaf it claims, and puts the
leaves back as the slots then hold them.  A destination without fields is refused. -/
def Destination.withSlots {α : Type} (dest : Destination τ) (routes : Routes)
    (fill : List (Slot τ) → α × List (Slot τ)) : Outcome α × Destination τ :=
  match dest with
  | .column cell => (failFor (.notRecord (dest.typeName)), .column cell)
  | .record info fields =>
    let cells := fields.cells
    let claims := claims cells.length routes
    let (result, slots) := fill (claims.map (slotOf cells))
    (.ok result, .record info (fields.refill (putBack claims slots cells)))

end

end RowBind
