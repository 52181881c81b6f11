import RowBind.Text.Blank

/-!
# Delimited texts

A number or a text in a list may stand between single or double quotes.  In a quoted
text the quote itself is written twice; a text without quotes ends at the first blank or
comma.

Main statement: `quotedBody_double`, the body of a quoted text is read back whatever
follows it.
-/

namespace RowBind.Text

/-- The character opens a quoted text. -/
def isQuote (c : Char) : Bool :=
  c == '"' || c == '\''

/-- The opening quote of a text, if there is one, and the text behind it. -/
def splitQuote : List Char → Option Char × List Char
  | [] => (none, [])
  | c :: rest => if isQuote c then (some c, rest) else (none, c :: rest)

/-- The text behind the counterpart of the opening quote. -/
def closeQuote : Option Char → List Char → Option (List Char)
  | none, text => some text
  | some _, [] => none
  | some quote, c :: rest => if c = quote then some rest else none

/-- Reads the body of a quoted text up to its closing quote: the characters, where a
double quote stands for one, and the text behind the closing quote. -/
def quotedBody (quote : Char) : List Char → Option (List Char × List Char)
  | [] => none
  | [c] => if c = quote then some ([], []) else none
  | c :: d :: rest =>
    if c = quote then
      if d = quote then (quotedBody quote rest).map fun (body, rest) => (c :: body, rest)
      else some ([], d :: rest)
    else (quotedBody quote (d :: rest)).map fun (body, rest) => (c :: body, rest)

/-- A text with every quote written twice. -/
def doubleQuotes (quote : Char) (text : List Char) : List Char :=
  text.flatMap fun c => if c = quote then [c, c] else [c]

/-- The character belongs to a text without quotes. -/
def isBare (c : Char) : Bool :=
  !isBlank c && c != ','

/-- The start of a text up to the first blank or comma, and what is left. -/
def bareText (text : List Char) : List Char × List Char :=
  (text.takeWhile isBare, text.dropWhile isBare)

theorem quotedBody_cons_ne {quote c : Char} (h : c ≠ quote) (rest : List Char) :
    quotedBody quote (c :: rest) =
      (quotedBody quote rest).map fun (body, rest) => (c :: body, rest) := by
  cases rest with
  | nil => simp [quotedBody, h]
  | cons d rest => rw [quotedBody, if_neg h]

/-- The body of a quoted text is read back whatever follows its closing quote, as long
as that is not another quote. -/
theorem quotedBody_double (quote : Char) (text : List Char) {rest : List Char}
    (h : rest.head? ≠ some quote) :
    quotedBody quote (doubleQuotes quote text ++ quote :: rest) = some (text, rest) := by
  induction text with
  | nil =>
    cases rest with
    | nil => simp [doubleQuotes, quotedBody]
    | cons d rest =>
      have hd : d ≠ quote := by simpa using h
      simp [doubleQuotes, quotedBody, hd]
  | cons c text ih =>
    by_cases hc : c = quote
    · subst hc
      simpa [doubleQuotes, quotedBody] using ih
    · have hsplit : doubleQuotes quote (c :: text) = c :: doubleQuotes quote text := by
        simp [doubleQuotes, hc]
      rw [hsplit, List.cons_append, quotedBody_cons_ne hc, ih]
      rfl

end RowBind.Text
