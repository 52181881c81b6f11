import RowBind.Failure

/-!
# Families of column types

A family of column types is a type of codes.  A code has a name, a type of contents and
the content a column holds at first, and it says how a value becomes a content and how
a content is read from the start of a text.  Everything that moves columns around is
written for an arbitrary family.

Main statements: `readAll_eq_ok_iff`, a text is read as a whole exactly when it is read
and nothing is left, and `Cell.receive_eq_ok_iff`, a cell takes what converts to its type.
-/

namespace RowBind

open Text

/-- A family of column types with the codes `τ`. -/
class ColumnFamily (τ : Type) where
  /-- What a column of the type holds. -/
  Content : τ → Type
  /-- The name of the type in messages. -/
  typeName : τ → String
  /-- What a column holds before anything is assigned to it. -/
  blank : (t : τ) → Content t
  /-- The typed null of the values the type is made for. -/
  nullValue : τ → Value
  /-- Converts a value. -/
  ofValue : (t : τ) → Value → Outcome (Content t)
  /-- Reads the start of a text, and gives what is left of it. -/
  read : (t : τ) → List Char → Outcome (Content t × List Char)

export ColumnFamily (Content typeName blank nullValue ofValue read)

/-- Reads a whole text; it is an error if something is left. -/
def readAllWith {α : Type} (type : String) (read : List Char → Outcome (α × List Char))
    (text : List Char) : Outcome α :=
  match read text with
  | .error failure => .error failure
  | .ok (content, []) => .ok content
  | .ok (_, rest) => failFor (.leftOver (String.ofList text) type (String.ofList rest))

theorem readAllWith_eq_ok_iff {α : Type} {type : String}
    {read : List Char → Outcome (α × List Char)} {text : List Char} {content : α} :
    readAllWith type read text = .ok content ↔ read text = .ok (content, []) := by
  unfold readAllWith
  split <;> simp_all [failFor]

section

variable {τ : Type} [ColumnFamily τ]

/-- Reads a whole text as a content of the type. -/
def readAll (t : τ) (text : List Char) : Outcome (Content t) :=
  readAllWith (typeName t) (read t) text

theorem readAll_eq_ok_iff {t : τ} {text : List Char} {content : Content t} :
    readAll t text = .ok content ↔ read t text = .ok (content, []) :=
  readAllWith_eq_ok_iff

/-- Reads a content of the type off the front of a text: what came of it, and the text that
is left.  The text is moved on only once the content was read. -/
def readOff (t : τ) (text : List Char) : Outcome (Content t) × List Char :=
  match read t text with
  | .error failure => (.error failure, text)
  | .ok (content, rest) => (.ok content, rest)

theorem readOff_eq_ok_iff {t : τ} {text left : List Char} {content : Content t} :
    readOff t text = (.ok content, left) ↔ read t text = .ok (content, left) := by
  unfold readOff
  split <;> simp_all

/-- What is not read stays. -/
theorem exists_readOff_eq_error {t : τ} {text : List Char}
    (h : ∀ content left, read t text ≠ .ok (content, left)) :
    ∃ failure, readOff t text = (.error failure, text) := by
  unfold readOff
  split
  · exact ⟨_, rfl⟩
  · next content left heq => exact absurd heq (h content left)

/-- A column of some type of the family, with its content. -/
structure Cell (τ : Type) [ColumnFamily τ] where
  type : τ
  content : Content type

namespace Cell

/-- The cell of a type before anything is assigned to it. -/
def ofType (t : τ) : Cell τ := ⟨t, blank t⟩

/-- The cell with the converted value in place of its content. -/
def receive (cell : Cell τ) (value : Value) : Outcome (Cell τ) :=
  match ofValue cell.type value with
  | .ok content => .ok ⟨cell.type, content⟩
  | .error failure => .error failure

/-- A cell takes a value that converts to a content of its type. -/
theorem receive_eq_ok_iff {cell new : Cell τ} {value : Value} :
    cell.receive value = .ok new ↔
      ∃ content, ofValue cell.type value = .ok content ∧ new = ⟨cell.type, content⟩ := by
  cases h : ofValue cell.type value with
  | error failure => simp [receive, h]
  | ok content => simp [receive, h, eq_comm]

/-- A cell refuses a value that does not convert. -/
theorem receive_eq_error_iff {cell : Cell τ} {value : Value} {failure : Failure} :
    cell.receive value = .error failure ↔ ofValue cell.type value = .error failure := by
  cases h : ofValue cell.type value <;> simp [receive, h]

theorem receive_type {cell cell' : Cell τ} {value : Value} (h : cell.receive value = .ok cell') :
    cell'.type = cell.type := by
  obtain ⟨content, -, rfl⟩ := receive_eq_ok_iff.mp h
  rfl

end Cell

end

/-- Two families side by side. -/
instance {ι κ : Type} [ColumnFamily ι] [ColumnFamily κ] : ColumnFamily (ι ⊕ κ) where
  Content
    | .inl i => Content i
    | .inr k => Content k
  typeName
    | .inl i => typeName i
    | .inr k => typeName k
  blank
    | .inl i => blank i
    | .inr k => blank k
  nullValue
    | .inl i => nullValue i
    | .inr k => nullValue k
  ofValue
    | .inl i => ofValue i
    | .inr k => ofValue k
  read
    | .inl i => read i
    | .inr k => read k

end RowBind
