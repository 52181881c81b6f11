import RowBind.Text.Visible

/-!
# Quoted texts and characters

A text or a character is shown between quotes with every character that could be
misread escaped: the backslash, the quote that encloses it, the common controls by their
letters, and any other character without a glyph of its own by its code point.
-/

namespace RowBind.Text

/-- The code point of a character in lower case hexadecimal, as an escape. -/
def codePointEscape (c : Char) : List Char :=
  ['\\', 'u', '\x7b'] ++ Nat.toDigits 16 c.toNat ++ ['\x7d']

/-- A character as it stands between the quotes `quote`. -/
def escapeChar (quote c : Char) : List Char :=
  if c = '\x00' then ['\\', '0']
  else if c = '\t' then ['\\', 't']
  else if c = '\n' then ['\\', 'n']
  else if c = '\r' then ['\\', 'r']
  else if c = '\\' then ['\\', '\\']
  else if c = quote then ['\\', quote]
  else if isVisible c then [c]
  else codePointEscape c

/-- A text between double quotes. -/
def quoteText (text : List Char) : List Char :=
  '"' :: text.flatMap (escapeChar '"') ++ ['"']

/-- A character between single quotes. -/
def quoteChar (c : Char) : List Char :=
  '\'' :: escapeChar '\'' c ++ ['\'']

end RowBind.Text
