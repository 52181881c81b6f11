import RowBind.Record

/-!
# Destinations and slots

A destination is what a row is scanned into: a single column, or a record, which may
also know how to make itself from a single value.  Rows are routed to the fields of
records that do not decode themselves, and go as a whole everywhere else, unless the
caller forces routing by field.

A cursor writes a row through slots, one per column; a slot leads to a destination or
discards what it is given.

Main statements: `Slot.assign_discard`, a slot that discards takes every value, and
`routing_of_forced`, forcing decides whatever the destination is.
-/

namespace RowBind

/-- What is known of a record type apart from its fields: its name, and how it is made
from a single value if it decodes itself. -/
structure RecordInfo (τ : Type) [ColumnFamily τ] where
  name : String
  decode : Option (Value → Outcome (Record τ))

/-- What a row is scanned into. -/
inductive Destination (τ : Type) [ColumnFamily τ] where
  | column (cell : Cell τ)
  | record (info : RecordInfo τ) (fields : Record τ)

/-- How rows are routed into a destination. -/
inductive Routing where
  /-- The destination takes a single column. -/
  | whole
  /-- Columns go to the fields that answer to their names. -/
  | byField
  /-- Columns go to fields because the caller asked for it. -/
  | byFieldForced
deriving DecidableEq, Repr

/-- Columns go to fields. -/
def Routing.isByField : Routing → Bool
  | whole => false
  | byField => true
  | byFieldForced => true

namespace Destination

variable {τ : Type} [ColumnFamily τ]

/-- The name of the type of the destination. -/
def typeName : Destination τ → String
  | column cell => ColumnFamily.typeName cell.type
  | record info _ => info.name

/-- The destination has fields. -/
def isRecord : Destination τ → Bool
  | column _ => false
  | record _ _ => true

/-- The destination is a record that is made from a single value. -/
def decodesItself : Destination τ → Bool
  | column _ => false
  | record info _ => info.decode.isSome

/-- The visible fields, none for a column. -/
def layout : Destination τ → Layout
  | column _ => .nil
  | record _ fields => fields.layout

/-- The leaves to which a row can be routed. -/
def cells : Destination τ → List (Cell τ)
  | column _ => []
  | record _ fields => fields.cells

/-- The destination takes a single value. -/
def takesValue : Destination τ → Bool
  | column _ => true
  | record info _ => info.decode.isSome

/-- Assigns a single value. -/
def receive : Destination τ → Value → Outcome (Destination τ)
  | column cell, value =>
    match cell.receive value with
    | .ok cell => .ok (column cell)
    | .error failure => .error failure
  | record info _, value =>
    match info.decode with
    | none => failFor (.notDecodable info.name)
    | some decode =>
      match decode value with
      | .ok fields => .ok (record info fields)
      | .error failure => .error failure

/-- The routing of a destination: by field into a record that has columns and does not
decode itself. -/
def routing (dest : Destination τ) : Routing :=
  if dest.decodesItself || !dest.isRecord || dest.layout.columnCount == 0 then .whole
  else .byField

/-- The routing, if the caller may force it to be by field. -/
def routingForced (force : Bool) (dest : Destination τ) : Routing :=
  if force then .byFieldForced else dest.routing

theorem routing_of_forced (dest : Destination τ) :
    dest.routingForced true = .byFieldForced := rfl

end Destination

/-- Where one column of a row goes. -/
inductive Slot (τ : Type) [ColumnFamily τ] where
  | field (target : Destination τ)
  /-- Every value is taken and dropped. -/
  | discard

namespace Slot

variable {τ : Type} [ColumnFamily τ]

/-- The slot drops what it is given. -/
def isDiscard : Slot τ → Bool
  | field _ => false
  | discard => true

/-- Writes a value through a slot. -/
def assign : Slot τ → Value → Outcome (Slot τ)
  | field target, value =>
    match target.receive value with
    | .ok target => .ok (field target)
    | .error failure => .error failure
  | discard, _ => .ok discard

theorem assign_discard (value : Value) : (discard : Slot τ).assign value = .ok discard := rfl

end Slot

section

variable {τ : Type} [ColumnFamily τ]

/-- Writes a row through slots, `index` being the position of the first of them among
`columns` slots.  Values are assigned one by one up to the first that is refused; the
slots are as the assignments left them. -/
def fillFrom (columns : Nat) (index : Nat) : List (Slot τ) → List Value →
    Outcome Unit × List (Slot τ)
  | [], [] => (.ok (), [])
  | [], _ :: _ => (failFor (.longRow columns), [])
  | slot :: slots, [] => (failFor (.shortRow index columns), slot :: slots)
  | slot :: slots, value :: row =>
    match slot.assign value with
    | .error failure => (.error (failure.within (.assigning index)), slot :: slots)
    | .ok slot =>
      let (outcome, slots) := fillFrom columns (index + 1) slots row
      (outcome, slot :: slots)

/-- Writes a row through the slots of its columns. -/
def fillRow (slots : List (Slot τ)) (row : List Value) : Outcome Unit × List (Slot τ) :=
  fillFrom slots.length 0 slots row

theorem fillFrom_length (columns index : Nat) (slots : List (Slot τ)) (row : List Value) :
    (fillFrom columns index slots row).2.length = slots.length := by
  induction slots generalizing index row with
  | nil => cases row <;> rfl
  | cons slot slots ih =>
    cases row with
    | nil => rfl
    | cons value row =>
      rw [fillFrom]
      split
      · rfl
      · simp [ih]

end

end RowBind
