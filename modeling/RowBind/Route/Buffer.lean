import RowBind.Route

/-!
# The buffer of slots

The slots of a row and the addresses of the leaves behind them are kept in a buffer, whose
room is used again for the next row, whatever destination that goes to.  For a row the
addresses of all leaves are pushed, in their order; each route then takes the address at its
position out of them, so that a later route finds none there.

Main statements: `claimAddresses_eq`, the addresses that routes take are the leaves they claim;
and `withSlots_eq`, what the buffer holds from earlier rows makes no difference.
-/

namespace RowBind

/-- Empties a list, whose room is used again for another one. -/
def recycle {α β : Type} (items : List α) : List β :=
  (items.take 0).filterMap fun _ => none

@[simp]
theorem recycle_eq_nil {α β : Type} (items : List α) : (recycle items : List β) = [] := rfl

/-- The addresses of so many leaves. -/
def addresses (size : Nat) : List (Option Nat) :=
  (List.range size).map some

/-- Takes the address at a position, if there is one left. -/
def takeAddress (fields : List (Option Nat)) (position : Nat) :
    Option Nat × List (Option Nat) :=
  (fields[position]?.join, fields.set position none)

/-- The addresses that routes take, and those that are left. -/
def claimAddresses : (fields : List (Option Nat)) → Routes →
    List (Option Nat) × List (Option Nat)
  | fields, [] => ([], fields)
  | fields, none :: routes =>
    let (claimed, left) := claimAddresses fields routes
    (none :: claimed, left)
  | fields, some position :: routes =>
    let (address, fields) := takeAddress fields position
    let (claimed, left) := claimAddresses fields routes
    (address :: claimed, left)

/-- The slots of a row and the addresses of the leaves behind them. -/
structure SlotBuffer (τ : Type) [ColumnFamily τ] where
  slots : List (Slot τ) := []
  fields : List (Option Nat) := []

/-- Runs `fill` on one slot per route, each leading to the leaf whose address it takes, and
puts the leaves back as the slots then hold them.  A destination without fields is refused,
and the buffer is left alone. -/
def SlotBuffer.withSlots {α τ : Type} [ColumnFamily τ] (buffer : SlotBuffer τ)
    (dest : Destination τ) (routes : Routes) (fill : List (Slot τ) → α × List (Slot τ)) :
    Outcome α × Destination τ × SlotBuffer τ :=
  match dest with
  | .column cell => (failFor (.notRecord dest.typeName), .column cell, buffer)
  | .record info record =>
    let cells := record.cells
    let (claimed, fields) :=
      claimAddresses (recycle buffer.fields ++ addresses cells.length) routes
    let slots := recycle buffer.slots ++ claimed.map (slotOf cells)
    let (result, slots) := fill slots
    (.ok result, .record info (record.refill (putBack claimed slots cells)),
      { slots := recycle slots, fields := recycle fields })

/-! ## What routes take -/

/-- Among `size` leaves, those whose address was not taken have it at their position. -/
def Untaken (size : Nat) (taken : List Nat) (fields : List (Option Nat)) : Prop :=
  ∀ position, fields[position]?.join = if position < size ∧ position ∉ taken then some position
    else none

theorem untaken_addresses (size : Nat) : Untaken size [] (addresses size) := by
  intro position
  by_cases h : position < size <;> simp [addresses, h]

/-- An address that is taken out leaves the others where they are. -/
theorem join_set_none (fields : List (Option Nat)) (position other : Nat) :
    (fields.set position none)[other]?.join =
      if other = position then none else fields[other]?.join := by
  rw [List.getElem?_set]
  by_cases h : position = other
  · rw [if_pos h, if_pos h.symm]
    split <;> rfl
  · rw [if_neg h, if_neg (Ne.symm h)]

theorem Untaken.set {size position : Nat} {taken : List Nat} {fields : List (Option Nat)}
    (h : Untaken size taken fields) :
    Untaken size (position :: taken) (fields.set position none) := by
  intro other
  rw [join_set_none, h other]
  by_cases hother : other = position <;> simp [hother]

/-- Where there was no address, nothing is taken. -/
theorem Untaken.set_of_none {size position : Nat} {taken : List Nat}
    {fields : List (Option Nat)} (h : Untaken size taken fields)
    (hnone : ¬ (position < size ∧ position ∉ taken)) :
    Untaken size taken (fields.set position none) := by
  intro other
  rw [join_set_none, h other]
  by_cases hother : other = position
  · rw [if_pos hother, hother, if_neg hnone]
  · rw [if_neg hother]

/-- **The addresses that routes take are the leaves they claim.**  By induction on the routes,
with the leaves that earlier ones have taken. -/
theorem claimAddresses_eq {size : Nat} {taken : List Nat} {fields : List (Option Nat)}
    (h : Untaken size taken fields) (routes : Routes) :
    (claimAddresses fields routes).1 = claimsFrom size taken routes := by
  induction routes generalizing taken fields with
  | nil => rfl
  | cons route routes ih =>
      cases route with
      | none => exact congrArg (none :: ·) (ih h)
      | some position =>
          rw [claimAddresses, claimsFrom, takeAddress]
          dsimp only
          rw [h position]
          by_cases hfree : position < size ∧ position ∉ taken
          · rw [if_pos hfree, if_pos hfree, ih h.set]
          · rw [if_neg hfree, if_neg hfree, ih (h.set_of_none hfree)]

theorem claimAddresses_addresses (size : Nat) (routes : Routes) :
    (claimAddresses (addresses size) routes).1 = claims size routes :=
  claimAddresses_eq (untaken_addresses size) routes

/-- **What the buffer holds makes no difference** to a row: the slots are those of the routes,
and so is what becomes of the destination. -/
theorem SlotBuffer.withSlots_eq {α τ : Type} [ColumnFamily τ] (buffer : SlotBuffer τ)
    (dest : Destination τ) (routes : Routes) (fill : List (Slot τ) → α × List (Slot τ)) :
    ((buffer.withSlots dest routes fill).1, (buffer.withSlots dest routes fill).2.1) =
      dest.withSlots routes fill := by
  cases dest with
  | column cell => rfl
  | record info record =>
      simp only [SlotBuffer.withSlots, Destination.withSlots, recycle_eq_nil, List.nil_append,
        claimAddresses_addresses]

end RowBind
