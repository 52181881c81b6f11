import RowBind.Number.Integer

/-!
# Numbers written in digits

Whole numbers are read from the longest run of ASCII digits at the start of a text,
after an optional sign where the range has negative numbers.  The digits are read in
the 128 bit range of the same sign rule; a number beyond it is noticed, not wrapped,
and its digits are consumed all the same.

Main statements: `natOfDigits_append`, a digit run is read place by place, and
`scan_consumed_append_rest`, what is consumed and what is left make up the text.
-/

namespace RowBind.Number

attribute [local instance (high)] instPowNat

/-- The character is one of the ten ASCII digits. -/
def isDigit (c : Char) : Bool :=
  '0' ≤ c && c ≤ '9'

/-- The value of an ASCII digit. -/
def digitValue (c : Char) : Nat :=
  c.toNat - '0'.toNat

/-- The number written by a run of digits. -/
def natOfDigits (digits : List Char) : Nat :=
  digits.foldl (fun n c => 10 * n + digitValue c) 0

theorem foldl_digits (n : Nat) (digits : List Char) :
    digits.foldl (fun n c => 10 * n + digitValue c) n =
      n * 10 ^ digits.length + natOfDigits digits := by
  induction digits generalizing n with
  | nil => simp [natOfDigits]
  | cons c rest ih =>
    simp only [natOfDigits, List.foldl_cons, List.length_cons]
    rw [ih (10 * n + digitValue c), ih (10 * 0 + digitValue c)]
    have shift : (10 * n + digitValue c) * 10 ^ rest.length =
        n * 10 ^ (rest.length + 1) + digitValue c * 10 ^ rest.length := by
      rw [Nat.add_mul, Nat.mul_comm 10 n, Nat.mul_assoc, ← Nat.pow_succ']
    simp only [Nat.mul_zero, Nat.zero_add]
    omega

/-- A digit run is read place by place. -/
theorem natOfDigits_append (s t : List Char) :
    natOfDigits (s ++ t) = natOfDigits s * 10 ^ t.length + natOfDigits t := by
  rw [natOfDigits, List.foldl_append, foldl_digits]
  rfl

/-- What a scanner of whole numbers found at the start of a text. -/
structure Scan where
  /-- The number, unless it lies beyond the 128 bit range. -/
  number : Option Int
  /-- The sign and the digits read. -/
  consumed : List Char
  /-- The text behind them. -/
  rest : List Char
deriving DecidableEq, Repr

/-- The sign in front of a signed number, with the text behind it. -/
def splitSign : List Char → Option Char × List Char
  | '-' :: rest => (some '-', rest)
  | '+' :: rest => (some '+', rest)
  | text => (none, text)

/-- The range in which the digits of a number are gathered. -/
def wideKind (signed : Bool) : IntKind :=
  ⟨signed, .w128⟩

/-- Reads a number at the start of a text: an optional sign if `signed`, then digits.
A sign alone counts as read, with the number zero. -/
def scanNumber (signed : Bool) (text : List Char) : Scan :=
  let (sign, body) := if signed then splitSign text else (none, text)
  let digits := body.takeWhile isDigit
  let magnitude : Int := natOfDigits digits
  let number := if sign = some '-' then -magnitude else magnitude
  { number := (Integer.ofInt? (wideKind signed) number).map (·.val)
    consumed := sign.toList ++ digits
    rest := body.dropWhile isDigit }

theorem splitSign_append (text : List Char) :
    (splitSign text).1.toList ++ (splitSign text).2 = text := by
  unfold splitSign
  split <;> rfl

/-- What is consumed and what is left make up the text. -/
theorem scan_consumed_append_rest (signed : Bool) (text : List Char) :
    (scanNumber signed text).consumed ++ (scanNumber signed text).rest = text := by
  cases signed
  · simp [scanNumber]
  · simp [scanNumber, splitSign_append]

end RowBind.Number
