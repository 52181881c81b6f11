import RowBind.Column.Scalar
import RowBind.Text.Delimited
import RowBind.Text.Alphanumeric
import RowBind.Number.BinaryText
import RowBind.Calendar.Pattern

/-!
# Reading scalars from text

Each scalar type reads the longest text of its form at the start of an input and leaves
the rest.  Numbers and identifiers may stand in quotes, which have to match; a quoted
text ends at its closing quote, any other at the first blank or comma; dates and times
have their patterns, of which the first one that matches decides.

Main statement: `readPatterns_none`, without a matching pattern the input is quoted in
the failure.
-/

namespace RowBind

open Number Calendar Text

/-- The number as an integer of the range, or the failure that it lies out of it. -/
def narrow (kind : IntKind) (type source : String) (number : Int) : Outcome (Integer kind) :=
  match Integer.ofInt? kind number with
  | some i => .ok i
  | none => failFor (.outOfRange number source type)

theorem narrow_eq_ok_iff {kind : IntKind} {type source : String} {number : Int}
    {i : Integer kind} : narrow kind type source number = .ok i ↔ i.val = number := by
  rw [← Integer.ofInt?_eq_some_iff, narrow]
  cases Integer.ofInt? kind number <;> simp [failFor]

/-- Reads an integer, which may stand in quotes. -/
def readInteger (kind : IntKind) (type : String) (text : List Char) :
    Outcome (Integer kind × List Char) :=
  let (quote, body) := splitQuote text
  let scan := scanNumber kind.signed body
  if scan.consumed.isEmpty then failFor (.noInteger type (String.ofList text))
  else
    match scan.number with
    | none => failFor (.tooLarge (String.ofList text) type)
    | some number =>
      match narrow kind type (wideKind kind.signed).name number with
      | .error failure => .error failure
      | .ok i =>
        match closeQuote quote scan.rest with
        | some rest => .ok (i, rest)
        | none => failFor (.openQuote type (String.ofList text))

/-- The words are the same without regard to the case of ASCII letters. -/
def sameWord (word : List Char) (name : String) : Bool :=
  word.map Char.toLower == name.toList

/-- The truth value that a word stands for. -/
def boolOfWord? (word : List Char) : Option Bool :=
  if sameWord word "true" || sameWord word "t" || word == ['1'] then some true
  else if sameWord word "false" || sameWord word "f" || word == ['0'] then some false
  else none

/-- Reads a truth value: the word at the start of the text. -/
def readBool (text : List Char) : Outcome (Bool × List Char) :=
  match boolOfWord? (text.takeWhile isWordChar) with
  | some b => .ok (b, text.dropWhile isWordChar)
  | none => failFor (.noBool (String.ofList text))

/-- Reads a floating point number, which may stand in quotes. -/
def readFloat (p : Precision) (text : List Char) : Outcome (Binary p × List Char) :=
  let (quote, body) := splitQuote text
  match readBinary p body with
  | none =>
    .error ((Failure.of .malformedFloat).within (.readingFloat (String.ofList text)))
  | some (x, behind) =>
    match closeQuote quote behind with
    | some rest => .ok (x, rest)
    | none => failFor (.noFloat (String.ofList text))

/-- Reads a text, quoted or bare. -/
def readText (text : List Char) : Outcome (String × List Char) :=
  match splitQuote text with
  | (none, body) =>
    let (bare, rest) := bareText body
    .ok (String.ofList bare, rest)
  | (some quote, body) =>
    match quotedBody quote body with
    | some (content, rest) => .ok (String.ofList content, rest)
    | none => failFor (.openText (String.ofList text))

/-- Reads a decimal. -/
def readDecimalText (text : List Char) : Outcome (Decimal × List Char) :=
  match readDecimal text with
  | some found => .ok found
  | none => failFor (.noDecimal (String.ofList text))

/-- The start of a text that takes exactly `size` bytes in UTF-8, and what is left; none
if the text is shorter or a character stands across the end. -/
def splitBytes : (size : Nat) → List Char → Option (List Char × List Char)
  | 0, text => some ([], text)
  | _ + 1, [] => none
  | size + 1, c :: rest =>
    if c.utf8Size ≤ size + 1 then
      (splitBytes (size + 1 - c.utf8Size) rest).map fun (taken, rest) => (c :: taken, rest)
    else none
termination_by _ text => text.length

/-- Reads an identifier, which may stand in quotes. -/
def readUuid (text : List Char) : Outcome (Uuid × List Char) :=
  let (quote, body) := splitQuote text
  match splitBytes Uuid.textLength body with
  | none => failFor (.noUuid (String.ofList text))
  | some (taken, behind) =>
    match Uuid.read taken with
    | .error fault =>
      .error ((Failure.of (.malformedUuid fault)).within (.readingUuid (String.ofList text)))
    | .ok id =>
      match closeQuote quote behind with
      | some rest => .ok (id, rest)
      | none => failFor (.noUuid (String.ofList text))

/-- Reads a text by the first of the patterns that matches its start.  If the matched
fields do not name a value, no other pattern is tried. -/
def readPatterns {α : Type} (type : String) (ofFields? : Fields → Option α) :
    List Pattern → List Char → Outcome (α × List Char)
  | [], text => failFor (.noCalendar (String.ofList text) type)
  | pattern :: patterns, text =>
    match Pattern.read pattern text with
    | none => readPatterns type ofFields? patterns text
    | some (fields, rest) =>
      match ofFields? fields with
      | some a => .ok (a, rest)
      | none => failFor (.noSuchTime fields.refused)

theorem readPatterns_none {α : Type} {type : String} {ofFields? : Fields → Option α}
    {patterns : List Pattern} {text : List Char}
    (h : ∀ pattern ∈ patterns, Pattern.read pattern text = none) :
    readPatterns type ofFields? patterns text = failFor (.noCalendar (String.ofList text) type) := by
  induction patterns with
  | nil => rfl
  | cons pattern patterns ih =>
    rw [readPatterns, h pattern List.mem_cons_self]
    exact ih fun p hp => h p (List.mem_cons_of_mem pattern hp)

namespace Scalar

/-- Reads a content of the type from the start of a text.  Characters and bytes have no
text form. -/
def read : (s : Scalar) → List Char → Outcome (s.Content × List Char)
  | bool, input => readBool input
  | int kind, input => readInteger kind (int kind).typeName input
  | word signed, input => readInteger (wordKind signed) (word signed).typeName input
  | float p, input => readFloat p input
  | char, input => failFor (.unreadable (String.ofList input) char.typeName)
  | text, input => readText input
  | sharedText, input => readText input
  | bytes, input => failFor (.unreadable (String.ofList input) bytes.typeName)
  | decimal, input => readDecimalText input
  | uuid, input => readUuid input
  | date, input => readPatterns date.typeName Fields.date? datePatterns input
  | time, input => readPatterns time.typeName Fields.time? timePatterns input
  | timestamp, input => readPatterns timestamp.typeName Fields.timestamp? timestampPatterns input
  | zoned, input => readPatterns zoned.typeName Fields.zoned? zonedPatterns input

/-- Reads a whole text as a content of the type. -/
def readAll (s : Scalar) (input : String) : Outcome s.Content :=
  readAllWith s.typeName s.read input.toList

end Scalar

end RowBind
