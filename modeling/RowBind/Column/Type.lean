import RowBind.Column.Scalar.Convert

/-!
# Column types built from others

From the types of a family, columns may be made optional, may hold lists, and may hold
their content behind a pointer.  An optional column is empty for null and otherwise
converts as its content does; a list converts element by element; a pointer adds
nothing but its name.

Main statements: `ofValue_optional_of_isNull`, null makes an optional column empty, and
`ofValue_pointer`, a pointer converts as what it points to.
-/

namespace RowBind

open Text

/-- How a column may hold its content at a distance. -/
inductive PointerKind where
  | box | rc | arc
deriving DecidableEq, Repr

/-- The name of a pointer in messages. -/
def PointerKind.typeName : PointerKind → String
  | box => "alloc::boxed::Box"
  | rc => "alloc::rc::Rc"
  | arc => "alloc::sync::Arc"

/-- The column types built over the family `ι`. -/
inductive ColumnType (ι : Type) where
  | base (i : ι)
  | optional (t : ColumnType ι)
  | listOf (t : ColumnType ι)
  | pointer (kind : PointerKind) (t : ColumnType ι)
deriving DecidableEq

namespace ColumnType

variable {ι : Type} [ColumnFamily ι]

/-- What a column of the type holds. -/
@[reducible]
def Content : ColumnType ι → Type
  | base i => ColumnFamily.Content i
  | optional t => Option t.Content
  | listOf t => List t.Content
  | pointer _ t => t.Content

/-- The name of the type in messages. -/
def typeName : ColumnType ι → String
  | base i => ColumnFamily.typeName i
  | optional t => "core::option::Option<" ++ t.typeName ++ ">"
  | listOf t => "alloc::vec::Vec<" ++ t.typeName ++ ">"
  | pointer kind t => kind.typeName ++ "<" ++ t.typeName ++ ">"

/-- Nothing, no elements, or what the type behind it starts with. -/
def blank : (t : ColumnType ι) → t.Content
  | base i => ColumnFamily.blank i
  | optional _ => none
  | listOf _ => []
  | pointer _ t => t.blank

/-- The typed null of the type. -/
def nullValue : ColumnType ι → Value
  | base i => ColumnFamily.nullValue i
  | optional t => t.nullValue
  | listOf t => .list none t.nullValue
  | pointer _ t => t.nullValue

/-- Converts the elements of a list; the first failure is that of the list. -/
def convertAll {α : Type} (convert : Value → Outcome α) : List Value → Outcome (List α)
  | [] => .ok []
  | v :: vs =>
    match convert v with
    | .error failure => .error failure
    | .ok a =>
      match convertAll convert vs with
      | .error failure => .error failure
      | .ok as => .ok (a :: as)

/-- Converts a value to a content of the type. -/
def ofValue : (t : ColumnType ι) → Value → Outcome t.Content
  | base i, value => ColumnFamily.ofValue i value
  | optional t, value =>
    if value.isNull then .ok none
    else
      match t.ofValue value with
      | .error failure => .error failure
      | .ok content => .ok (some content)
  | listOf t, .list (some elements) _ => convertAll t.ofValue elements
  | listOf _, .list none _ => .ok []
  | listOf t, value => refuse value (listOf t).typeName
  | pointer _ t, value => t.ofValue value

/-- Reads a content of the type from the start of a text.  The word `null` stands for no
content where there may be none; lists have no text form. -/
def read : (t : ColumnType ι) → List Char → Outcome (t.Content × List Char)
  | base i, text => ColumnFamily.read i text
  | optional t, text =>
    if sameWord (text.takeWhile isWordChar) "null" then .ok (none, text.dropWhile isWordChar)
    else
      match t.read text with
      | .error failure => .error failure
      | .ok (content, rest) => .ok (some content, rest)
  | listOf t, text => failFor (.unreadable (String.ofList text) (listOf t).typeName)
  | pointer _ t, text => t.read text

instance : ColumnFamily (ColumnType ι) where
  Content := Content
  typeName := typeName
  blank := blank
  nullValue := nullValue
  ofValue := ofValue
  read := read

theorem ofValue_optional_of_isNull (t : ColumnType ι) {value : Value} (h : value.isNull = true) :
    (optional t).ofValue value = .ok none := by
  simp [ofValue, h]

theorem ofValue_pointer (kind : PointerKind) (t : ColumnType ι) (value : Value) :
    (pointer kind t).ofValue value = t.ofValue value := by
  simp [ofValue]

end ColumnType

end RowBind
