/-!
# The form of identifiers

The text of an identifier has hexadecimal digits in groups of 8, 4, 4, 4 and 12, with a
hyphen between them.  A text that is not of this form has a fault: the first character
that is neither a digit nor a hyphen, or else the number of its groups, or else the first
group of the wrong length.

Main statement: `fault?_eq_none_iff`, a text has no fault exactly when it is of the form.
-/

namespace RowBind.Uuid

/-- The number of characters of the text of an identifier. -/
def textLength : Nat := 36

/-- The numbers of digits of the groups. -/
def groupLengths : List Nat := [8, 4, 4, 4, 12]

/-- The value of a hexadecimal digit of either case. -/
def hexValue? (c : Char) : Option Nat :=
  if '0' ≤ c ∧ c ≤ '9' then some (c.toNat - '0'.toNat)
  else if 'a' ≤ c ∧ c ≤ 'f' then some (c.toNat - 'a'.toNat + 10)
  else if 'A' ≤ c ∧ c ≤ 'F' then some (c.toNat - 'A'.toNat + 10)
  else none

/-- The character can stand in an identifier. -/
def isMember (c : Char) : Bool :=
  c == '-' || (hexValue? c).isSome

/-- The first character that cannot stand in an identifier, with its position; `position`
is that of the start of the text. -/
def stranger? (position : Nat) : List Char → Option (Char × Nat)
  | [] => none
  | c :: text => if isMember c then stranger? (position + 1) text else some (c, position)

theorem stranger?_eq_none_iff {position : Nat} {text : List Char} :
    stranger? position text = none ↔ ∀ c ∈ text, isMember c = true := by
  induction text generalizing position with
  | nil => simp [stranger?]
  | cons c text ih => by_cases h : isMember c <;> simp [stranger?, h, ih]

/-- The lengths of the groups that the hyphens of a text divide it into, `current` being
the characters of the first group that were passed already. -/
def lengthsFrom (current : Nat) : List Char → List Nat
  | [] => [current]
  | c :: text => if c = '-' then current :: lengthsFrom 0 text else lengthsFrom (current + 1) text

/-- The lengths of the groups of a text. -/
def lengthsOf (text : List Char) : List Nat :=
  lengthsFrom 0 text

/-- What keeps a text from being an identifier. -/
inductive Fault where
  | character (c : Char) (position : Nat)
  | groupCount (found : Nat)
  | groupLength (group expected found : Nat)
deriving DecidableEq, Repr

/-- The message of a fault. -/
def Fault.message : Fault → String
  | character c position => s!"invalid character: found `{c}` at {position}"
  | groupCount found => s!"invalid group count: expected {groupLengths.length}, found {found}"
  | groupLength group expected found =>
    s!"invalid group length in group {group}: expected {expected}, found {found}"

/-- The first group that is not as long as it should be, `group` being the number of the
first one looked at. -/
def wrongGroup? (group : Nat) : (found should : List Nat) → Option Fault
  | found :: others, should :: rest =>
    if found = should then wrongGroup? (group + 1) others rest
    else some (.groupLength group should found)
  | _, _ => none

theorem wrongGroup?_eq_none_iff {group : Nat} {found should : List Nat}
    (h : found.length = should.length) : wrongGroup? group found should = none ↔ found = should := by
  induction found generalizing group should with
  | nil => cases should <;> simp_all [wrongGroup?]
  | cons n found ih =>
    cases should with
    | nil => simp at h
    | cons m should =>
      have hrest : found.length = should.length := by simpa using h
      by_cases hn : n = m <;> simp [wrongGroup?, hn, ih hrest]

/-- What keeps the text from being an identifier, if anything does. -/
def fault? (text : List Char) : Option Fault :=
  match stranger? 0 text with
  | some (c, position) => some (.character c position)
  | none =>
    let found := lengthsOf text
    if found.length = groupLengths.length then wrongGroup? 0 found groupLengths
    else some (.groupCount found.length)

/-- A text has no fault exactly when it has the digits and the groups of an identifier. -/
theorem fault?_eq_none_iff {text : List Char} :
    fault? text = none ↔ (∀ c ∈ text, isMember c = true) ∧ lengthsOf text = groupLengths := by
  rw [← @stranger?_eq_none_iff 0 text, fault?]
  cases hs : stranger? 0 text with
  | some found => simp
  | none =>
    by_cases hl : (lengthsOf text).length = groupLengths.length
    · simp [hl, wrongGroup?_eq_none_iff hl]
    · have hne : lengthsOf text ≠ groupLengths := fun he => hl (he ▸ rfl)
      simp [hl, hne]

end RowBind.Uuid
