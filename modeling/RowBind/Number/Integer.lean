/-!
# Integers of a fixed width

A column of integers has a kind, a sign rule and a width, and holds exactly the
numbers of that range.  `Integer.ofInt?` is the only way in from an arbitrary number:
it refuses what is out of range and never wraps.

Main statements: `ofInt?_eq_some_iff`, a number that is accepted is kept as it is; and
`ofInt?_eq_none_iff`, it is refused exactly when it does not lie in the range.
-/

namespace RowBind.Number

attribute [local instance (high)] instPowNat

/-- The widths an integer column can have. -/
inductive Width where
  | w8 | w16 | w32 | w64 | w128
deriving DecidableEq, Repr

/-- The number of bits of a width. -/
def Width.bits : Width → Nat
  | .w8 => 8
  | .w16 => 16
  | .w32 => 32
  | .w64 => 64
  | .w128 => 128

/-- A range of integers: whether negative numbers belong to it, and its width. -/
structure IntKind where
  signed : Bool
  width : Width
deriving DecidableEq, Repr

namespace IntKind

/-- The least number of the range. -/
def least (k : IntKind) : Int :=
  if k.signed then -(2 ^ (k.width.bits - 1)) else 0

/-- The greatest number of the range. -/
def greatest (k : IntKind) : Int :=
  if k.signed then 2 ^ (k.width.bits - 1) - 1 else 2 ^ k.width.bits - 1

/-- The number lies in the range. -/
def Holds (k : IntKind) (n : Int) : Prop :=
  k.least ≤ n ∧ n ≤ k.greatest

instance (k : IntKind) (n : Int) : Decidable (k.Holds n) :=
  inferInstanceAs (Decidable (_ ∧ _))

/-- Zero lies in every range. -/
theorem holds_zero (k : IntKind) : k.Holds 0 := by
  rcases k with ⟨signed, width⟩
  cases signed <;> cases width <;> decide

/-- The balanced remainder modulo 2 ^ 64 lies in the signed 64 bit range. -/
theorem holds_bmod (n : Int) : Holds ⟨true, .w64⟩ (n.bmod (2 ^ (64 : Nat))) := by
  have hlow := Int.le_bmod (x := n) (m := 2 ^ (64 : Nat)) (by decide)
  have hhigh := Int.bmod_lt (x := n) (m := 2 ^ (64 : Nat)) (by decide)
  simp only [Holds, least, greatest, Width.bits]
  constructor
  · simpa using hlow
  · omega

end IntKind

/-- A number of the range `k`. -/
structure Integer (k : IntKind) where
  val : Int
  holds : k.Holds val
deriving DecidableEq

namespace Integer

/-- The number, if it lies in the range. -/
def ofInt? (k : IntKind) (n : Int) : Option (Integer k) :=
  if h : k.Holds n then some ⟨n, h⟩ else none

/-- The integer zero. -/
def zero (k : IntKind) : Integer k :=
  ⟨0, k.holds_zero⟩

/-- The number of the signed 64 bit range that differs from `n` by a multiple of 2 ^ 64. -/
def wrap64 (n : Int) : Integer ⟨true, .w64⟩ :=
  ⟨n.bmod (2 ^ (64 : Nat)), IntKind.holds_bmod n⟩

theorem eq_of_val_eq {k : IntKind} {i j : Integer k} (h : i.val = j.val) : i = j := by
  cases i
  cases j
  cases h
  rfl

theorem ofInt?_eq_some_iff {k : IntKind} {n : Int} {i : Integer k} :
    ofInt? k n = some i ↔ i.val = n := by
  unfold ofInt?
  constructor
  · intro h
    split at h
    · cases h; rfl
    · cases h
  · rintro rfl
    simp [i.holds]

theorem ofInt?_eq_none_iff {k : IntKind} {n : Int} : ofInt? k n = none ↔ ¬ k.Holds n := by
  unfold ofInt?
  split <;> simp_all

theorem ofInt?_of_holds {k : IntKind} {n : Int} (h : k.Holds n) : ofInt? k n = some ⟨n, h⟩ :=
  dif_pos h

end Integer

end RowBind.Number
