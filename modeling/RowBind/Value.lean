import RowBind.Number.Decimal
import RowBind.Calendar.Date
import RowBind.Uuid

/-!
# Values

A value is one column of one row.  It has a type, which it keeps when it is null, and a
content unless it is null.  Text of a type that nobody knows yet is `untyped`: it is
read when it is converted.

Two values are equal when they have the same type and equal contents.  Contents are
compared as numbers, instants and texts, so a value with a content that is no number
differs from itself.  The element type of a list counts by its type alone.

Main statements: `isNull_asNull`, `asNull_asNull` and `sameType_asNull`, the typed null
of a value is null, final, and of the type of the value.
-/

namespace RowBind

open Number Calendar

/-- One column of one row; the content is none if the value is null. -/
inductive Value where
  /-- Null of no particular type. -/
  | null
  | bool (content : Option Bool)
  | int (kind : IntKind) (content : Option (Integer kind))
  | float (precision : Precision) (content : Option (Binary precision))
  /-- A decimal with the declared count of digits and of places. -/
  | decimal (content : Option Decimal) (digits places : UInt8)
  | char (content : Option Char)
  | text (content : Option String)
  | bytes (content : Option (List UInt8))
  | date (content : Option Date)
  | time (content : Option TimeOfDay)
  | timestamp (content : Option Timestamp)
  | zoned (content : Option ZonedTimestamp)
  | uuid (content : Option Uuid)
  /-- A list, with a value that stands for the type of its elements. -/
  | list (content : Option (List Value)) (element : Value)
  /-- Text of a type not known yet. -/
  | untyped (content : Option String)

instance : Inhabited Value := ⟨.null⟩

namespace Value

/-- The value has no content. -/
def isNull : Value → Bool
  | null => true
  | bool content => content.isNone
  | int _ content => content.isNone
  | float _ content => content.isNone
  | decimal content _ _ => content.isNone
  | char content => content.isNone
  | text content => content.isNone
  | bytes content => content.isNone
  | date content => content.isNone
  | time content => content.isNone
  | timestamp content => content.isNone
  | zoned content => content.isNone
  | uuid content => content.isNone
  | list content _ => content.isNone
  | untyped content => content.isNone

/-- The null of the same type. -/
def asNull : Value → Value
  | null => null
  | bool _ => bool none
  | int kind _ => int kind none
  | float precision _ => float precision none
  | decimal _ digits places => decimal none digits places
  | char _ => char none
  | text _ => text none
  | bytes _ => bytes none
  | date _ => date none
  | time _ => time none
  | timestamp _ => timestamp none
  | zoned _ => zoned none
  | uuid _ => uuid none
  | list _ element => list none element
  | untyped _ => untyped none

/-- The values have the same type, whatever their contents. -/
def sameType : Value → Value → Bool
  | null, null => true
  | bool _, bool _ => true
  | int k _, int l _ => k == l
  | float p _, float q _ => p == q
  | decimal _ digits places, decimal _ digits' places' => digits == digits' && places == places'
  | char _, char _ => true
  | text _, text _ => true
  | bytes _, bytes _ => true
  | date _, date _ => true
  | time _, time _ => true
  | timestamp _, timestamp _ => true
  | zoned _, zoned _ => true
  | uuid _, uuid _ => true
  | list _ element, list _ element' => sameType element element'
  | untyped _, untyped _ => true
  | _, _ => false

/-- Contents are equal when both are missing, or both are there and equal. -/
def sameContent {α : Type} (same : α → α → Bool) : Option α → Option α → Bool
  | none, none => true
  | some a, some b => same a b
  | _, _ => false

mutual

/-- The values have the same type and equal contents. -/
def equal : Value → Value → Bool
  | null, null => true
  | bool a, bool b => a == b
  | int k a, int l b => k == l && a.map (·.val) == b.map (·.val)
  | float .single a, float .single b => sameContent Binary.equal a b
  | float .double a, float .double b => sameContent Binary.equal a b
  | decimal a digits places, decimal b digits' places' =>
    sameContent Decimal.equal a b && (digits == digits' && places == places')
  | char a, char b => a == b
  | text a, text b => a == b
  | bytes a, bytes b => a == b
  | date a, date b => a == b
  | time a, time b => a == b
  | timestamp a, timestamp b => a == b
  | zoned a, zoned b => a.map (·.instant) == b.map (·.instant)
  | uuid a, uuid b => a == b
  | list none element, list none element' => sameType element element'
  | list (some as) element, list (some bs) element' =>
    equalAll as bs && sameType element element'
  | untyped a, untyped b => a == b
  | _, _ => false
termination_by structural a => a

/-- The lists have equally many values, equal one by one. -/
def equalAll : List Value → List Value → Bool
  | [], [] => true
  | a :: as, b :: bs => equal a b && equalAll as bs
  | _, _ => false
termination_by structural as => as

end

instance : BEq Value := ⟨equal⟩

theorem isNull_asNull (v : Value) : v.asNull.isNull = true := by
  cases v <;> rfl

theorem asNull_asNull (v : Value) : v.asNull.asNull = v.asNull := by
  cases v <;> rfl

theorem asNull_eq_self_iff {v : Value} : v.asNull = v ↔ v.isNull = true := by
  constructor
  · intro h
    rw [← h]
    exact isNull_asNull v
  · intro h
    cases v <;> simp_all [isNull, asNull]

theorem sameType_refl (v : Value) : sameType v v = true := by
  induction v using Value.rec (motive_2 := fun _ => True) (motive_3 := fun _ => True) with
  | list content element _ ih => exact ih
  | _ => simp [sameType]

theorem sameType_asNull (v : Value) : sameType v v.asNull = true := by
  cases v <;> simp [sameType, asNull, sameType_refl]

end Value

end RowBind
