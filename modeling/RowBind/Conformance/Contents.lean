import RowBind.Catalog.Records

/-!
# What destinations hold

The conformance scenarios look into destinations after rows were read.  A column is found
by the identifiers of the fields on the way to it, with points between them, and its
content is compared with what a value converts to.  Contents are equal as numbers,
instants and texts are.
-/

namespace RowBind

open Number Catalog

namespace Scalar

/-- The contents are equal. -/
def same : (s : Scalar) → s.Content → s.Content → Bool
  | bool, a, b => a == b
  | int _, a, b => a == b
  | word _, a, b => a == b
  | float _, a, b => a.equal b
  | char, a, b => a == b
  | text, a, b => a == b
  | sharedText, a, b => a == b
  | bytes, a, b => a == b
  | decimal, a, b => a.equal b
  | uuid, a, b => a == b
  | date, a, b => a == b
  | time, a, b => a == b
  | timestamp, a, b => a == b
  | zoned, a, b => a.instant == b.instant

end Scalar

namespace Catalog

/-- The records are equal. -/
def SelfDecoding.same : (t : SelfDecoding) → t.Content → t.Content → Bool
  | money _, a, b => a == b
  | version _, a, b => a == b

/-- The lists are equally long, and equal one by one. -/
def sameAll {α : Type} (same : α → α → Bool) : List α → List α → Bool
  | [], [] => true
  | a :: as, b :: bs => same a b && sameAll same as bs
  | _, _ => false

/-- The contents of a column are equal. -/
def sameContent : (t : Column) → t.Content → t.Content → Bool
  | .base (.inl s), a, b => s.same a b
  | .base (.inr t), a, b => t.same a b
  | .optional t, a, b => Value.sameContent (sameContent t) a b
  | .listOf t, as, bs => sameAll (sameContent t) as bs
  | .pointer _ t, a, b => sameContent t a b

end Catalog

namespace Cell

/-- The content of the cell is what the value converts to. -/
def holds (cell : Cell Column) (value : Value) : Bool :=
  match cell.type.ofValue value with
  | .ok content => sameContent cell.type cell.content content
  | .error _ => false

/-- The number in a cell of integers. -/
def integer? : Cell Column → Option Int
  | ⟨.base (.inl (.int kind)), content⟩ => some (content : Integer kind).val
  | _ => none

/-- The seconds of the offset in a cell of optional zoned timestamps. -/
def offset? : Cell Column → Option Int
  | ⟨.optional (.base (.inl .zoned)), content⟩ =>
    (content : Option Calendar.ZonedTimestamp).map (·.offset.seconds)
  | _ => none

end Cell

/-- All cells of a record, ignored ones too, with the identifiers on the way to them. -/
def Record.entries (lead : String) : Record Column → List (String × Cell Column)
  | .nil => []
  | .column field cell rest => (lead ++ field.ident, cell) :: rest.entries lead
  | .ignored ident cell rest => (lead ++ ident, cell) :: rest.entries lead
  | .embedded field inner rest =>
    inner.entries (lead ++ field.ident ++ ".") ++ rest.entries lead
  | .nested field inner rest =>
    inner.entries (lead ++ field.ident ++ ".") ++ rest.entries lead

namespace Destination

/-- The cell behind the given identifiers, or that of a single column. -/
def cell? (dest : Destination Column) (path : String) : Option (Cell Column) :=
  match dest with
  | .column cell => some cell
  | .record _ fields => (fields.entries "").lookup path

/-- The destination holds the given values in the given places. -/
def shows (dest : Destination Column) (expected : List (String × Value)) : Bool :=
  expected.all fun (path, value) => (dest.cell? path).any (·.holds value)

/-- There are as many destinations as expected, and each holds what is expected of it. -/
def allShow : List (Destination Column) → List (List (String × Value)) → Bool
  | [], [] => true
  | dest :: dests, expected :: others => dest.shows expected && allShow dests others
  | _, _ => false

end Destination

end RowBind
