import RowBind.Text.CodeRanges

/-!
# Blank characters

The characters with the Unicode property `White_Space`.  An unquoted text value
ends at the first of them, and the excerpt of a long text drops them from its end.
-/

namespace RowBind.Text

/-- The property `White_Space`, 25 characters. -/
def blankRanges : CodeRanges :=
  [(0x9, 0xD), (0x20, 0x20), (0x85, 0x85), (0xA0, 0xA0), (0x1680, 0x1680), (0x2000, 0x200A),
   (0x2028, 0x2029), (0x202F, 0x202F), (0x205F, 0x205F), (0x3000, 0x3000)]

/-- The character separates words. -/
def isBlank (c : Char) : Bool :=
  blankRanges.contains c

end RowBind.Text
