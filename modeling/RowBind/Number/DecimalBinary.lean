import RowBind.Number.Decimal

/-!
# Decimals and floating point numbers

A decimal becomes a floating point number part by part: the whole part and the fraction
are rounded on their own, added, and the sum is rounded to the places of the decimal.

A floating point number becomes a decimal exactly, as far as 96 bits hold it; what the
precision of the number does not vouch for is then rounded off, half up, and trailing
zeros are dropped.
-/

namespace RowBind.Number

attribute [local instance (high)] instPowNat

namespace Decimal

/-- Multiplication of numbers that are not negative, rounded. -/
def mulRounded (p : Precision) (x y : Binary p) : Binary p :=
  .round p false (x.magnitude * y.magnitude)

/-- The power `x ^ n` by repeated squaring, every product rounded: `result` gathers the
factors whose bit in `n` is set. -/
def powRounded (p : Precision) : (fuel : Nat) → (x result : Binary p) → (n : Nat) → Binary p
  | 0, _, result, _ => result
  | fuel + 1, x, result, n =>
    let result := if n % 2 = 1 then mulRounded p result x else result
    if n / 2 = 0 then result else powRounded p fuel (mulRounded p x x) result (n / 2)

/-- The power of ten in double precision. -/
def powerOfTen (n : Nat) : Binary .double :=
  powRounded .double n (.ofInt .double 10) (.ofInt .double 1) n

/-- The whole number nearest to a rational that is not negative, a tie going up. -/
def nearestUp (q : Rat) : Nat :=
  (q + 1 / 2).floor.toNat

/-- The decimal in double precision. -/
def toBinary (d : Decimal) : Binary .double :=
  if d.scale = 0 then .round .double (d.negative && d.mantissa != 0) d.mantissa
  else
    let rounded (q : Rat) : Rat := (Binary.round .double false q).magnitude
    let power := 10 ^ d.scale
    let whole := rounded (d.mantissa / power : Nat)
    let fraction := rounded (rounded (d.mantissa % power : Nat) / rounded (power : Nat))
    if fraction = 0 then .round .double d.negative whole
    else
      let sum := rounded (whole + fraction)
      let shift := (powerOfTen d.scale).magnitude
      .round .double d.negative (nearestUp (rounded (sum * shift)) / shift)

/-- A mantissa within 96 bits and its scale, on the way from binary to decimal. -/
structure Scaled where
  mantissa : Nat
  scale : Nat

/-- The mantissa is divided by `2 ^ n` as the scale allows: an even mantissa is halved,
an odd one multiplied by five with one more place, and halved with a bit lost where that
would not fit. -/
def halve : (n : Nat) → Scaled → Scaled
  | 0, s => s
  | n + 1, s =>
    if s.mantissa % 2 = 0 then halve n ⟨s.mantissa / 2, s.scale⟩
    else if s.mantissa * 5 < mantissaLimit then halve n ⟨s.mantissa * 5, s.scale + 1⟩
    else halve n ⟨s.mantissa / 2, s.scale⟩

/-- One place less, the last digit rounded half up. -/
def dropPlace (s : Scaled) : Scaled :=
  ⟨(s.mantissa + 5) / 10, s.scale - 1⟩

/-- Drops places until the scale is at most 28; a mantissa that has no other digit left
is zero, without a scale. -/
def limitScale : (fuel : Nat) → Scaled → Scaled
  | 0, s => s
  | fuel + 1, s =>
    if s.scale ≤ 28 then s
    else if s.mantissa < 10 then ⟨0, 0⟩
    else limitScale fuel (dropPlace s)

/-- Drops places until the mantissa has at most `bits` bits. -/
def limitBits (bits : Nat) : (fuel : Nat) → Scaled → Scaled
  | 0, s => s
  | fuel + 1, s =>
    if s.scale = 0 ∨ s.mantissa < 2 ^ bits then s else limitBits bits fuel (dropPlace s)

/-- Drops the places that hold zeros, from the last one on. -/
def dropZeros : (fuel : Nat) → Scaled → Scaled
  | 0, s => s
  | fuel + 1, s =>
    if s.scale = 0 ∨ s.mantissa % 10 ≠ 0 then s else dropZeros fuel ⟨s.mantissa / 10, s.scale - 1⟩

/-- The bits of a mantissa that a number of the given precision vouches for. -/
def trustedBits : Precision → Nat
  | .single => 24
  | .double => 52

/-- A finite floating point number as a decimal, if it fits. -/
def ofBinary? {p : Precision} (x : Binary p) : Option Decimal :=
  match x.parts with
  | .finite negative mantissa exponent =>
    if mantissa = 0 then ofParts? negative 0 0
    else if 0 ≤ exponent then
      if mantissa * 2 ^ exponent.toNat < mantissaLimit then
        ofParts? negative (mantissa * 2 ^ exponent.toNat) 0
      else none
    else
      let exact := halve (-exponent).toNat ⟨mantissa, 0⟩
      let limited := limitScale exact.scale exact
      let trusted := limitBits (trustedBits p) limited.scale limited
      let trimmed := dropZeros trusted.scale trusted
      ofParts? negative trimmed.mantissa trimmed.scale
  | _ => none

end Decimal

end RowBind.Number
