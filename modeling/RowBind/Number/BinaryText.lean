import RowBind.Number.Binary
import RowBind.Number.Digits

/-!
# Reading floating point numbers

A floating point text is an optional sign, digits with at most one point among them and
at least one digit in all, and an exponent if digits follow its mark; or, without regard
to case, one of the words `nan`, `inf` and `infinity`.  The longest such text at the
start of the input is read, and its exact value is rounded once.
-/

namespace RowBind.Number

/-- The text behind `word`, which is in lower case, if the text starts with it without
regard to case. -/
def dropWord : (word text : List Char) → Option (List Char)
  | [], text => some text
  | w :: word, c :: text => if c.toLower = w then dropWord word text else none
  | _ :: _, [] => none

/-- Reads one of the words for what is not finite, the longest first. -/
def readSpecial (p : Precision) (negative : Bool) (text : List Char) :
    Option (Binary p × List Char) :=
  match dropWord "infinity".toList text with
  | some rest => some (Binary.infinity p negative, rest)
  | none =>
    match dropWord "inf".toList text with
    | some rest => some (Binary.infinity p negative, rest)
    | none => (dropWord "nan".toList text).map fun rest => (Binary.nan p, rest)

/-- Reads the digits of an exponent behind its sign; none if there are none. -/
def readExponentDigits (text : List Char) : Option (Nat × List Char) :=
  match text.takeWhile isDigit with
  | [] => none
  | digits => some (natOfDigits digits, text.dropWhile isDigit)

/-- Reads an exponent, which counts only if digits follow: the exponent, zero if there
is none, and the text behind it. -/
def readExponent (text : List Char) : Int × List Char :=
  match text with
  | c :: rest =>
    if c = 'e' || c = 'E' then
      let (sign, body) := splitSign rest
      match readExponentDigits body with
      | some (n, rest) => (if sign = some '-' then -n else n, rest)
      | none => (0, text)
    else (0, text)
  | [] => (0, [])

/-- The number nearest to `± digits * 10 ^ exponent`.  Powers of ten far beyond the
least and the greatest number give zero and infinity at once. -/
def ofDecimal (p : Precision) (negative : Bool) (digits : Nat) (exponent : Int) : Binary p :=
  let length : Int := (Nat.toDigits 10 digits).length
  if digits = 0 then .ofCode p negative 0
  else if length + exponent > 400 then .infinity p negative
  else if length + exponent < -400 then .ofCode p negative 0
  else .round p negative (digits * 10 ^ exponent)

/-- The digits in front of and behind a point, and the text behind them. -/
def splitPoint (text : List Char) : List Char × List Char × List Char :=
  let whole := text.takeWhile isDigit
  match text.dropWhile isDigit with
  | '.' :: rest => (whole, rest.takeWhile isDigit, rest.dropWhile isDigit)
  | rest => (whole, [], rest)

/-- Reads the longest floating point number at the start of a text. -/
def readBinary (p : Precision) (text : List Char) : Option (Binary p × List Char) :=
  let (sign, body) := splitSign text
  let negative := sign == some '-'
  let (whole, fraction, rest) := splitPoint body
  if whole.isEmpty && fraction.isEmpty then readSpecial p negative body
  else
    let (exponent, rest) := readExponent rest
    some (ofDecimal p negative (natOfDigits (whole ++ fraction)) (exponent - fraction.length), rest)

end RowBind.Number
