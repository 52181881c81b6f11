import RowBind.Text.LetterCaseTable

/-!
# Upper and lower case

The full case mappings of Unicode for single characters and for texts.  In a text the
Greek capital sigma becomes the final form `ς` when it ends a word, that is when a
cased letter stands before it and none after it, case ignorable characters apart.
-/

namespace RowBind.Text

/-- The character is an upper case letter.  Title case letters are not. -/
def isUpper (c : Char) : Bool :=
  uppercaseRuns.any (·.contains c.toNat)

/-- The character is a letter of lower, upper or title case. -/
def isCased (c : Char) : Bool :=
  casedRanges.contains c

/-- The character neither makes nor ends a word. -/
def isCaseIgnorable (c : Char) : Bool :=
  caseIgnorableRanges.contains c

/-- The image of a character under a case mapping given by its runs and by the
characters with a longer image; any other character stays as it is. -/
def mapCase (runs : List (CodeRun × Int)) (special : List (Nat × List Nat)) (c : Char) : List Char :=
  match special.find? (·.1 == c.toNat) with
  | some (_, image) => image.map Char.ofNat
  | none =>
    match runs.find? (·.1.contains c.toNat) with
    | some (_, distance) => [Char.ofNat (c.toNat + distance).toNat]
    | none => [c]

/-- The lower case of a character on its own. -/
def lowerChar (c : Char) : List Char :=
  mapCase lowerRuns lowerSpecial c

/-- The upper case of a character. -/
def upperChar (c : Char) : List Char :=
  mapCase upperRuns upperSpecial c

/-- The text, case ignorable characters apart, starts with a cased letter. -/
def startsCased (text : List Char) : Bool :=
  match text.dropWhile isCaseIgnorable with
  | [] => false
  | c :: _ => isCased c

/-- The lower case of a text, `before` being what precedes it, last character first. -/
def lowerAfter (before : List Char) : List Char → List Char
  | [] => []
  | c :: rest =>
    let image :=
      if c = 'Σ' then
        if startsCased before && !startsCased rest then ['ς'] else ['σ']
      else lowerChar c
    image ++ lowerAfter (c :: before) rest

/-- The lower case of a text. -/
def toLower (text : List Char) : List Char :=
  lowerAfter [] text

/-- The upper case of a text. -/
def toUpper (text : List Char) : List Char :=
  text.flatMap upperChar

end RowBind.Text
