import RowBind.Number.Binary

/-!
# The shortest decimal text of a floating point number

A finite number is shown with the fewest decimal digits that still round to it; of
several such texts the nearest is taken, and of two equally near ones the greater.
For each count of digits only the two neighbours of the number on that decimal grid
need be looked at: if any point of the grid rounds to the number, one of them does.

The digits stand before and behind a point, at least one on each side, as long as the
size of the number lies from a ten-thousandth up to ten to the sixteenth; otherwise the
point follows the first digit and an exponent is written.
-/

namespace RowBind.Number

attribute [local instance (high)] instPowNat

/-- The number `0.d₁d₂… * 10 ^ exponent` with the digits `d₁d₂…` of `digits`. -/
structure DecimalDigits where
  digits : Nat
  exponent : Int
deriving DecidableEq, Repr

/-- The ASCII text of a natural number. -/
def natText (n : Nat) : List Char :=
  Nat.toDigits 10 n

/-- The least `k` with `q < 10 ^ k`, for a positive rational. -/
def decimalExponent (q : Rat) : Int :=
  let guess : Int := (natText q.num.natAbs).length - (natText q.den).length
  if q < 10 ^ guess then guess else guess + 1

/-- The rationals that round to a number: the bounds, and whether they belong to it. -/
structure RoundingInterval where
  low : Rat
  high : Rat
  closed : Bool

/-- The interval lets a rational in. -/
def RoundingInterval.admits (interval : RoundingInterval) (q : Rat) : Bool :=
  if interval.closed then interval.low ≤ q && q ≤ interval.high
  else interval.low < q && q < interval.high

/-- The rationals that round to `mantissa * 2 ^ exponent`: half a place to either side,
a quarter below where the places get finer.  The ends round to it when the mantissa is
even. -/
def roundingInterval (p : Precision) (mantissa : Nat) (exponent : Int) : RoundingInterval :=
  let place : Rat := 2 ^ exponent
  let below : Rat :=
    if mantissa = 2 ^ p.fractionBits && exponent != p.leastExponent then 1 / 4 else 1 / 2
  { low := (mantissa - below) * place
    high := (mantissa + 1 / 2) * place
    closed := mantissa % 2 == 0 }

/-- The neighbours of `q` among the numbers of `count` digits that lie in the interval,
the nearer one if both do, the greater one if they are equally near. -/
def bestOfLength (interval : RoundingInterval) (q : Rat) (top : Int) (count : Nat) :
    Option DecimalDigits :=
  let unit : Rat := 10 ^ (top - count)
  let scaled := q / unit
  let low := scaled.floor.toNat
  let high := scaled.ceil.toNat
  match interval.admits (low * unit), interval.admits (high * unit) with
  | false, false => none
  | true, false => some ⟨low, top - count⟩
  | false, true => some ⟨high, top - count⟩
  | true, true => some ⟨if scaled - low < high - scaled then low else high, top - count⟩

/-- Searches the lengths `count`, `count + 1`, …, at most `tries` of them. -/
def searchLengths (interval : RoundingInterval) (q : Rat) (top : Int) :
    (tries : Nat) → (count : Nat) → Option DecimalDigits
  | 0, _ => none
  | tries + 1, count =>
    match bestOfLength interval q top count with
    | some found => some found
    | none => searchLengths interval q top tries (count + 1)

/-- The digits of the shortest decimal that rounds to `mantissa * 2 ^ exponent`, without
trailing zeros, and the power of ten of the last of them.  Seventeen digits suffice for
every number of either precision. -/
def shortestDigits (p : Precision) (mantissa : Nat) (exponent : Int) : List Char × Int :=
  let q : Rat := mantissa * 2 ^ exponent
  match searchLengths (roundingInterval p mantissa exponent) q (decimalExponent q) 17 1 with
  | none => (natText mantissa, 0)
  | some found =>
    let digits := natText found.digits
    let kept := (digits.reverse.dropWhile (· == '0')).reverse
    (kept, found.exponent + (digits.length - kept.length : Nat))

/-- Digits with the point at its place: `1200.0`, `1.5`, `0.0001`. -/
def positional (digits : List Char) (last : Int) : List Char :=
  if 0 ≤ last then digits ++ List.replicate last.toNat '0' ++ ['.', '0']
  else
    let places := (-last).toNat
    let padded := List.replicate (places + 1 - digits.length) '0' ++ digits
    padded.take (padded.length - places) ++ '.' :: padded.drop (padded.length - places)

/-- Digits with a point behind the first one and an exponent: `1e16`, `1.5e-6`. -/
def scientific (digits : List Char) (last : Int) : List Char :=
  let exponent := last + (digits.length - 1 : Nat)
  let sign := if exponent < 0 then ['-'] else []
  digits.take 1 ++ (if digits.length > 1 then '.' :: digits.drop 1 else []) ++
    'e' :: sign ++ natText exponent.natAbs

/-- The shortest text of a positive finite number. -/
def positiveText (p : Precision) (mantissa : Nat) (exponent : Int) : List Char :=
  let (digits, last) := shortestDigits p mantissa exponent
  let q : Rat := mantissa * 2 ^ exponent
  if 10 ^ (16 : Nat) ≤ q || q < 1 / 10 ^ (4 : Nat) then scientific digits last else positional digits last

/-- The text of a floating point number. -/
def Binary.text {p : Precision} (x : Binary p) : List Char :=
  match x.parts with
  | .nan => "NaN".toList
  | .infinite negative => (if negative then "-inf" else "inf").toList
  | .finite negative mantissa exponent =>
    (if negative then ['-'] else []) ++
      (if mantissa = 0 then "0.0".toList else positiveText p mantissa exponent)

end RowBind.Number
