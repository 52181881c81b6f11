import RowBind.Column.Scalar.Convert

/-!
# The column types of numbers

Ten of the integer types have a sign rule and a width of their own, and two are as wide as a
machine address.  Together with the decimals they are the types that hold exact numbers.

Main statements: `IntegerType.read_eq_ok_iff`, an integer type reads the integers of its
range; and `IntegerType.exists_number_iff`, it holds a number exactly if that lies in its
range.
-/

namespace RowBind

open Number

/-- The integer types. -/
inductive IntegerType where
  | sized (kind : IntKind)
  | word (signed : Bool)
deriving DecidableEq, Repr

namespace IntegerType

/-- The range of the type. -/
def kind : IntegerType → IntKind
  | sized kind => kind
  | word signed => Scalar.wordKind signed

/-- The integer type among the scalar types. -/
def scalar : IntegerType → Scalar
  | sized kind => .int kind
  | word signed => .word signed

/-- A content of the type as an integer of its range. -/
def integer : (t : IntegerType) → Content t.scalar → Integer t.kind
  | sized _, content => content
  | word _, content => content

/-- The number that a content of the type is. -/
def number (t : IntegerType) (content : Content t.scalar) : Int :=
  (t.integer content).val

/-- The content for an integer of the range. -/
def content : (t : IntegerType) → Integer t.kind → Content t.scalar
  | sized _, i => i
  | word _, i => i

theorem integer_content (t : IntegerType) (i : Integer t.kind) : t.integer (t.content i) = i := by
  cases t <;> rfl

theorem exists_number_iff (t : IntegerType) (n : Int) :
    (∃ content, t.number content = n) ↔ t.kind.Holds n := by
  constructor
  · rintro ⟨content, rfl⟩
    exact (t.integer content).holds
  · intro h
    exact ⟨t.content ⟨n, h⟩, by rw [number, integer_content]⟩

/-- An integer type reads the integers of its range. -/
theorem read_eq_ok_iff (t : IntegerType) {text left : List Char} {content : Content t.scalar} :
    read t.scalar text = .ok (content, left) ↔
      readInteger t.kind t.scalar.typeName text = .ok (t.integer content, left) := by
  cases t <;> rfl

end IntegerType

/-- The types of exact numbers. -/
inductive NumberType where
  | integer (t : IntegerType)
  | decimal
deriving DecidableEq, Repr

/-- The number type among the scalar types. -/
def NumberType.scalar : NumberType → Scalar
  | integer t => t.scalar
  | decimal => .decimal

end RowBind
