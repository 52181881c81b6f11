import RowBind.Number.Digits
import RowBind.Number.Binary

/-!
# Decimals of a fixed scale

A decimal is `± mantissa / 10 ^ scale` with a mantissa of at most 96 bits and a scale of
at most 28.  The scale is part of the decimal: `1.50` and `1.5` are equal as numbers and
stay two decimals.  Zero keeps its sign.

Main statements: `equal_iff_toRat`, two decimals are equal exactly when their numbers are;
`ofScaled?_eq_some`, a signed mantissa and a scale are taken as they are or refused; and
`isInteger_and_truncate_eq_iff`, the whole decimals are those whose number is an integer.
-/

namespace RowBind.Number

attribute [local instance (high)] instPowNat

/-- The first number beyond the mantissas of a decimal. -/
abbrev mantissaLimit : Nat := 2 ^ (96 : Nat)

/-- A decimal number with its scale. -/
structure Decimal where
  negative : Bool
  mantissa : Nat
  scale : Nat
  mantissa_lt : mantissa < mantissaLimit
  scale_le : scale ≤ 28
deriving DecidableEq

namespace Decimal

/-- The decimal zero of scale zero. -/
def zero : Decimal := ⟨false, 0, 0, by decide, by decide⟩

/-- The signed mantissa. -/
def coefficient (d : Decimal) : Int :=
  if d.negative then -d.mantissa else d.mantissa

/-- The exact number. -/
def toRat (d : Decimal) : Rat :=
  d.coefficient / 10 ^ d.scale

/-- The decimal with the given sign, mantissa and scale, if they are within the limits. -/
def ofParts? (negative : Bool) (mantissa scale : Nat) : Option Decimal :=
  if h : mantissa < mantissaLimit ∧ scale ≤ 28 then some ⟨negative, mantissa, scale, h.1, h.2⟩ else none

/-- The decimal `coefficient / 10 ^ scale`, if it is within the limits. -/
def ofScaled? (coefficient : Int) (scale : Nat) : Option Decimal :=
  ofParts? (coefficient < 0) coefficient.natAbs scale

/-- The number has no places other than zeros behind its point. -/
def isInteger (d : Decimal) : Bool :=
  d.mantissa % 10 ^ d.scale == 0

/-- The number without the places behind its point. -/
def truncate (d : Decimal) : Int :=
  if d.negative then -(d.mantissa / 10 ^ d.scale : Nat) else (d.mantissa / 10 ^ d.scale : Nat)

/-- Equality of numbers, whatever the scales: both coefficients are brought to the same
scale. -/
def equal (a b : Decimal) : Bool :=
  a.coefficient * 10 ^ b.scale == b.coefficient * 10 ^ a.scale

theorem equal_iff {a b : Decimal} :
    equal a b = true ↔ a.coefficient * 10 ^ b.scale = b.coefficient * 10 ^ a.scale := by
  simp [equal]

/-- Decimals are compared by their numbers. -/
theorem equal_iff_toRat {a b : Decimal} : equal a b = true ↔ a.toRat = b.toRat := by
  have hne (n : Nat) : (10 : Rat) ^ n ≠ 0 := Rat.ne_of_gt (Rat.pow_pos (by decide))
  have hcast (d : Decimal) (n : Nat) :
      ((d.coefficient * 10 ^ n : Int) : Rat) = d.toRat * 10 ^ d.scale * 10 ^ n := by
    rw [Rat.intCast_mul, Rat.intCast_pow, toRat, Rat.div_mul_cancel (hne _)]
    rfl
  have hswap : b.toRat * 10 ^ b.scale * 10 ^ a.scale = b.toRat * 10 ^ a.scale * 10 ^ b.scale := by
    rw [Rat.mul_assoc, Rat.mul_comm (10 ^ b.scale), ← Rat.mul_assoc]
  rw [equal_iff, ← Rat.intCast_inj, hcast, hcast, hswap]
  constructor
  · intro h
    have hfirst := congrArg (· / (10 : Rat) ^ b.scale) h
    simp only [Rat.mul_div_cancel (hne _)] at hfirst
    have hsecond := congrArg (· / (10 : Rat) ^ a.scale) hfirst
    simpa only [Rat.mul_div_cancel (hne _)] using hsecond
  · intro h
    rw [h]

theorem ofScaled?_eq_some {n : Int} {scale : Nat} {d : Decimal} (h : ofScaled? n scale = some d) :
    d.coefficient = n ∧ d.scale = scale := by
  unfold ofScaled? ofParts? at h
  split at h
  · cases h
    refine ⟨?_, rfl⟩
    unfold coefficient
    by_cases hn : n < 0
    · simp only [hn, decide_true, if_true]; omega
    · simp only [hn, decide_false, Bool.false_eq_true, if_false]; omega
  · cases h

theorem natAbs_coefficient (d : Decimal) : d.coefficient.natAbs = d.mantissa := by
  unfold coefficient
  split <;> omega

theorem ofScaled?_eq_none_iff {n : Int} {scale : Nat} :
    ofScaled? n scale = none ↔ ¬ (n.natAbs < mantissaLimit ∧ scale ≤ 28) := by
  simp [ofScaled?, ofParts?]

section

variable {d : Decimal} {n : Int}

/-- The number is an integer exactly if the coefficient is that many powers of ten. -/
theorem toRat_eq_intCast_iff : d.toRat = n ↔ d.coefficient = n * 10 ^ d.scale := by
  have hne : ((10 : Rat) ^ d.scale) ≠ 0 := Rat.ne_of_gt (Rat.pow_pos (by decide))
  have hcast : ((n * 10 ^ d.scale : Int) : Rat) = n * 10 ^ d.scale := by
    rw [Rat.intCast_mul, Rat.intCast_pow]
    rfl
  rw [← Rat.intCast_inj, hcast, toRat]
  constructor
  · intro h
    rw [← h, Rat.div_mul_cancel hne]
  · intro h
    rw [h, Rat.mul_div_cancel hne]

theorem isInteger_iff : d.isInteger = true ↔ (10 ^ d.scale : Int) ∣ d.coefficient := by
  rw [← Int.natAbs_dvd_natAbs, natAbs_coefficient, Int.natAbs_pow, isInteger, beq_iff_eq]
  exact Nat.dvd_iff_mod_eq_zero.symm

theorem truncate_eq_tdiv (d : Decimal) : d.truncate = d.coefficient.tdiv (10 ^ d.scale) := by
  have hmantissa : ((d.mantissa / 10 ^ d.scale : Nat) : Int) =
      (d.mantissa : Int).tdiv (10 ^ d.scale) := by
    rw [Int.ofNat_tdiv, Int.natCast_pow]
    rfl
  unfold truncate coefficient
  split
  · rw [Int.neg_tdiv, hmantissa]
  · exact hmantissa

/-- A whole number is what stands in front of its point. -/
theorem isInteger_and_truncate_eq_iff :
    (d.isInteger = true ∧ d.truncate = n) ↔ d.toRat = n := by
  rw [isInteger_iff, truncate_eq_tdiv, toRat_eq_intCast_iff]
  constructor
  · rintro ⟨hdvd, rfl⟩
    exact (Int.tdiv_mul_cancel hdvd).symm
  · intro h
    have hne : (10 ^ d.scale : Int) ≠ 0 := Int.pow_ne_zero (by decide)
    rw [h]
    exact ⟨Int.dvd_mul_left _ _, Int.mul_tdiv_cancel n hne⟩

end

/-- The text of a decimal, with exactly `scale` places behind the point. -/
def text (d : Decimal) : List Char :=
  let digits := Nat.toDigits 10 d.mantissa
  let padded := List.replicate (d.scale + 1 - digits.length) '0' ++ digits
  let whole := padded.take (padded.length - d.scale)
  let places := padded.drop (padded.length - d.scale)
  (if d.negative then ['-'] else []) ++ whole ++ (if d.scale = 0 then [] else '.' :: places)

end Decimal

/-- Reads digits behind a point into a decimal whose whole part is `whole`: the mantissa
is gathered in 128 bits, and none is the answer if a step leaves them.  The digits are
counted in 32 bits, and they are read without a sign before they are taken for a number
with one: neither of these two steps is checked, and both go around at the end of their
range. -/
def joinFraction? (negative : Bool) (whole : Int) (fraction : Scan) : Option Decimal := do
  let places := fraction.consumed.length % 2 ^ (32 : Nat)
  let digits ← fraction.number
  let behind := digits.bmod (2 ^ (128 : Nat))
  let power ← Integer.ofInt? (wideKind true) (10 ^ places)
  let product ← Integer.ofInt? (wideKind true) (whole * power.val)
  let sum ← Integer.ofInt? (wideKind true) (product.val + if negative then -behind else behind)
  Decimal.ofScaled? sum.val places

/-- Reads a decimal at the start of a text: an optional sign, digits, and digits behind
a point if there is one.  The sign of the text applies to both parts. -/
def readDecimal (text : List Char) : Option (Decimal × List Char) := do
  let whole := scanNumber true text
  if whole.consumed.isEmpty then none
  let number ← whole.number
  match whole.rest with
  | '.' :: behind =>
    let fraction := scanNumber false behind
    let decimal ← joinFraction? (text.head? == some '-') number fraction
    some (decimal, fraction.rest)
  | rest => (Decimal.ofScaled? number 0).map (·, rest)

end RowBind.Number
