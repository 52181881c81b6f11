/-!
# Binary floating point numbers

Floating point numbers of single and double precision, kept as their bits.  `parts`
says which number the bits stand for, and `round` gives the number nearest to an exact
rational, a tie going to the even last place; every operation on finite numbers is
computed exactly and then rounded once.

Main statements: `equal_symm` and `equal_trans`; and `equal_self_iff`, a number equals itself
exactly when it is a number.
-/

namespace RowBind.Number

attribute [local instance (high)] instPowNat

/-- The two interchange formats. -/
inductive Precision where
  | single | double
deriving DecidableEq, Repr

namespace Precision

/-- The bits behind the leading one of a number. -/
def fractionBits : Precision → Nat
  | .single => 23
  | .double => 52

/-- The bits of the exponent. -/
def exponentBits : Precision → Nat
  | .single => 8
  | .double => 11

/-- The bits of a number: sign, exponent, fraction. -/
def width : Precision → Nat
  | .single => 32
  | .double => 64

/-- The exponent of the last place of the least numbers. -/
def leastExponent : Precision → Int
  | .single => -149
  | .double => -1074

/-- The bits of infinity, the sign left out. -/
def infinityCode (p : Precision) : Nat :=
  (2 ^ p.exponentBits - 1) * 2 ^ p.fractionBits

end Precision

/-- A floating point number of precision `p`, as its bits. -/
structure Binary (p : Precision) where
  bits : BitVec p.width
deriving DecidableEq

/-- What bits stand for: no number, an infinity, or `± mantissa * 2 ^ exponent`. -/
inductive BinaryParts where
  | nan
  | infinite (negative : Bool)
  | finite (negative : Bool) (mantissa : Nat) (exponent : Int)
deriving DecidableEq, Repr

namespace Binary

variable {p : Precision}

/-- The number with the given sign and remaining bits. -/
def ofCode (p : Precision) (negative : Bool) (code : Nat) : Binary p :=
  ⟨BitVec.ofNat p.width ((if negative then 2 ^ (p.width - 1) else 0) + code)⟩

/-- The bits without the sign. -/
def code (x : Binary p) : Nat :=
  x.bits.toNat % 2 ^ (p.width - 1)

/-- The sign bit is set. -/
def negative (x : Binary p) : Bool :=
  2 ^ (p.width - 1) ≤ x.bits.toNat

/-- The number that the bits stand for. -/
def parts (x : Binary p) : BinaryParts :=
  let biased := x.code / 2 ^ p.fractionBits
  let fraction := x.code % 2 ^ p.fractionBits
  if biased = 2 ^ p.exponentBits - 1 then
    if fraction = 0 then .infinite x.negative else .nan
  else if biased = 0 then .finite x.negative fraction p.leastExponent
  else .finite x.negative (2 ^ p.fractionBits + fraction) (p.leastExponent + biased - 1)

/-- Positive zero. -/
def zero (p : Precision) : Binary p := ofCode p false 0

/-- An infinity. -/
def infinity (p : Precision) (negative : Bool) : Binary p := ofCode p negative p.infinityCode

/-- The representative of the bits that are no number. -/
def nan (p : Precision) : Binary p := ofCode p false (p.infinityCode + 2 ^ (p.fractionBits - 1))

/-- The bits are no number. -/
def isNaN (x : Binary p) : Bool := x.parts == .nan

/-- The whole number nearest to a rational that is not negative, a tie going to the
even one. -/
def nearestEven (q : Rat) : Nat :=
  let low := q.floor.toNat
  let remainder := q - low
  if remainder < 1 / 2 then low
  else if 1 / 2 < remainder then low + 1
  else low + low % 2

/-- The least exponent, from `p.leastExponent` on, at which the rational `q` has no more
places before the point than a mantissa. -/
def placeExponent (p : Precision) (q : Rat) : Int :=
  let guess : Int := (q.num.natAbs.log2 : Int) - q.den.log2 - p.fractionBits
  let fitted := if q < 2 ^ (guess + p.fractionBits : Int) then guess - 1 else guess
  max fitted p.leastExponent

/-- The bits, without the sign, of the number nearest to a rational that is not
negative. -/
def roundCode (p : Precision) (q : Rat) : Nat :=
  let place := placeExponent p q
  let mantissa := nearestEven (q / 2 ^ place)
  min p.infinityCode ((place - p.leastExponent).toNat * 2 ^ p.fractionBits + mantissa)

/-- The number nearest to `± q`, for a rational `q` that is not negative. -/
def round (p : Precision) (negative : Bool) (q : Rat) : Binary p :=
  ofCode p negative (if q = 0 then 0 else roundCode p q)

/-- The number nearest to an integer. -/
def ofInt (p : Precision) (n : Int) : Binary p :=
  round p (n < 0) n.natAbs

/-- The size of a finite number, zero for the others. -/
def magnitude (x : Binary p) : Rat :=
  match x.parts with
  | .finite _ mantissa exponent => mantissa * 2 ^ exponent
  | _ => 0

/-- The number in another precision, rounded if that is narrower. -/
def convert (target : Precision) (x : Binary p) : Binary target :=
  match x.parts with
  | .nan => nan target
  | .infinite negative => infinity target negative
  | .finite negative _ _ => round target negative x.magnitude

/-- Equality of numbers: both zeros are equal, and no number equals nothing. -/
def equal (x y : Binary p) : Bool :=
  !x.isNaN && !y.isNaN && (x.bits == y.bits || (x.code == 0 && y.code == 0))

theorem equal_symm (x y : Binary p) : equal x y = equal y x := by
  rw [Bool.eq_iff_iff]
  simp only [equal, Bool.and_eq_true, Bool.or_eq_true, beq_iff_eq]
  constructor <;> rintro ⟨⟨h1, h2⟩, h⟩ <;> exact ⟨⟨h2, h1⟩, h.imp Eq.symm And.symm⟩

theorem equal_trans {x y z : Binary p} (hxy : equal x y = true) (hyz : equal y z = true) :
    equal x z = true := by
  simp only [equal, Bool.and_eq_true, Bool.or_eq_true, beq_iff_eq, code] at *
  obtain ⟨⟨hx, -⟩, hxy⟩ := hxy
  obtain ⟨⟨-, hz⟩, hyz⟩ := hyz
  refine ⟨⟨hx, hz⟩, ?_⟩
  rcases hxy with hxy | ⟨hxzero, hyzero⟩
  · rw [hxy]
    exact hyz
  · rcases hyz with hyz | ⟨-, hzzero⟩
    · rw [← hyz]
      exact .inr ⟨hxzero, hyzero⟩
    · exact .inr ⟨hxzero, hzzero⟩

theorem equal_self_iff (x : Binary p) : equal x x = true ↔ x.isNaN = false := by
  simp [equal]

end Binary

end RowBind.Number
