import RowBind.Uuid.Form

/-!
# Universally unique identifiers

An identifier is a word of 128 bits.  Its text has 32 hexadecimal digits in five groups.
Upper and lower case digits are read, lower case ones are written.

Main statement: `read_eq_error_iff`, a text is refused for its fault.
-/

namespace RowBind

/-- An identifier of 128 bits. -/
structure Uuid where
  bits : BitVec 128
deriving DecidableEq

namespace Uuid

/-- The identifier of all zeros. -/
def nil : Uuid := ⟨0⟩

/-- The hexadecimal digit of a value below 16, in lower case. -/
def hexDigit (n : Nat) : Char :=
  Nat.digitChar n

/-- The `count` hexadecimal digits of a number, the most significant first. -/
def hexDigits : (count : Nat) → Nat → List Char
  | 0, _ => []
  | count + 1, n => hexDigits count (n / 16) ++ [hexDigit (n % 16)]

/-- The value of a run of hexadecimal digits; any other character counts as zero. -/
def natOfHex (digits : List Char) : Nat :=
  digits.foldl (fun n c => 16 * n + (hexValue? c).getD 0) 0

/-- Reads the characters of an identifier, or tells what is wrong with them. -/
def read (text : List Char) : Except Fault Uuid :=
  match fault? text with
  | some fault => .error fault
  | none => .ok ⟨BitVec.ofNat 128 (natOfHex (text.filter (· != '-')))⟩

/-- The identifier with the given text, if there is one. -/
def ofText? (text : List Char) : Option Uuid :=
  (read text).toOption

/-- The groups of digits joined by hyphens. -/
def text (id : Uuid) : List Char :=
  let digits := hexDigits 32 id.bits.toNat
  digits.take 8 ++ '-' :: (digits.drop 8).take 4 ++ '-' :: (digits.drop 12).take 4 ++
    '-' :: (digits.drop 16).take 4 ++ '-' :: digits.drop 20

theorem read_eq_error_iff {text : List Char} {fault : Fault} :
    read text = .error fault ↔ fault? text = some fault := by
  unfold read
  split <;> simp_all

end Uuid

end RowBind
