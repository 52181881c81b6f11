import RowBind.Text.Cluster
import RowBind.Text.LetterCase

/-!
# Words of an identifier

An identifier is cut into words at underscores, hyphens and spaces, which are dropped,
between a small and a capital letter, before the last of several capitals that a small
letter follows, and between letters and digits.  The words are then written in one of
five word cases.
-/

namespace RowBind.Text

/-- A small letter: it has a case, and is its own lower case. -/
def isSmall (cluster : List Char) : Bool :=
  toUpper cluster != toLower cluster && cluster == toLower cluster

/-- A capital letter: it has a case, and is its own upper case. -/
def isCapital (cluster : List Char) : Bool :=
  toUpper cluster != toLower cluster && cluster == toUpper cluster

/-- An ASCII digit. -/
def isDigitCluster (cluster : List Char) : Bool :=
  cluster.all fun c => '0' ≤ c && c ≤ '9'

/-- The cluster stands between words and belongs to none. -/
def isJoint (cluster : List Char) : Bool :=
  cluster == ['_'] || cluster == ['-'] || cluster == [' ']

/-- A word ends between two clusters. -/
def splitsBetween (a b : List Char) : Bool :=
  (isSmall a && isCapital b) ||
    ((isSmall a || isCapital a) && isDigitCluster b) ||
    (isDigitCluster a && (isSmall b || isCapital b))

/-- A word ends behind the first of three clusters: a capital, behind which another
capital starts a word of small letters. -/
def splitsAcronym (a b c : List Char) : Bool :=
  isCapital a && isCapital b && isSmall c

/-- A word ends behind the first cluster of a text. -/
def splitsAfter (cluster : List Char) : List (List Char) → Bool
  | [] => false
  | [b] => splitsBetween cluster b
  | b :: c :: _ => splitsBetween cluster b || splitsAcronym cluster b c

/-- Cuts clusters into words, some of which may be empty, `word` being the word read so
far. -/
def cut (word : List Char) : List (List Char) → List (List Char)
  | [] => [word]
  | cluster :: rest =>
    if isJoint cluster then word :: cut [] rest
    else if splitsAfter cluster rest then (word ++ cluster) :: cut [] rest
    else cut (word ++ cluster) rest

/-- The words of an identifier. -/
def words (identifier : List Char) : List (List Char) :=
  (cut [] (clusters identifier)).filter (!·.isEmpty)

/-- The ways to write several words as one identifier. -/
inductive WordCase where
  /-- `two_words` -/
  | snake
  /-- `twoWords` -/
  | camel
  /-- `TwoWords` -/
  | pascal
  /-- `two-words` -/
  | kebab
  /-- `TWO_WORDS` -/
  | screamingSnake
deriving DecidableEq, Repr

/-- A word with a capital letter and small letters behind it. -/
def capitalize : List Char → List Char
  | [] => []
  | c :: rest => upperChar c ++ toLower rest

namespace WordCase

/-- What stands between the words. -/
def joint : WordCase → List Char
  | snake => ['_']
  | camel => []
  | pascal => []
  | kebab => ['-']
  | screamingSnake => ['_']

/-- The words as they are written, still apart. -/
def write : WordCase → List (List Char) → List (List Char)
  | snake, words => words.map toLower
  | camel, [] => []
  | camel, first :: rest => toLower first :: rest.map capitalize
  | pascal, words => words.map capitalize
  | kebab, words => words.map toLower
  | screamingSnake, words => words.map toUpper

/-- The words as one identifier. -/
def join (style : WordCase) (words : List (List Char)) : List Char :=
  style.joint.intercalate (style.write words)

/-- An identifier in the given word case. -/
def apply (style : WordCase) (identifier : String) : String :=
  String.ofList (style.join (words identifier.toList))

end WordCase

end RowBind.Text
