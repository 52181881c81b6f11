import RowBind.Column.Type

/-!
# Column types that decode a record

Two records that are made from a single column: an amount of money, written `12.34 EUR`,
and a version, written `1.2`.  They are also records of two fields, for results that
bring the fields as columns of their own.
-/

namespace RowBind.Catalog

open Number Text

/-- The signed 64 bit integers. -/
abbrev Int64Kind : IntKind := ⟨true, .w64⟩

/-- The unsigned 16 bit integers. -/
abbrev UInt16Kind : IntKind := ⟨false, .w16⟩

/-- The parts of a text around the first occurrence of a character. -/
def splitAtChar (c : Char) (text : List Char) : Option (List Char × List Char) :=
  match text.dropWhile (· != c) with
  | [] => none
  | _ :: rest => some (text.takeWhile (· != c), rest)

/-- An amount of some currency. -/
structure Money where
  cents : Integer Int64Kind
  currency : String
deriving DecidableEq

namespace Money

/-- The units and the cents of an amount, read one after the other. -/
def readCents (amount : List Char) : Outcome (Integer Int64Kind) := do
  let (units, cents) := (splitAtChar '.' amount).getD (amount, ['0'])
  let units ← Scalar.readAll (.int Int64Kind) (String.ofList units)
  let cents ← Scalar.readAll (.int Int64Kind) (String.ofList cents)
  return .wrap64 (units.val * 100 + cents.val)

/-- Reads an amount, a space and a currency; the currency takes all that is left. -/
def read (text : List Char) : Outcome (Money × List Char) :=
  match splitAtChar ' ' text with
  | none => failFor (.told s!"Missing currency in `{String.ofList text}`")
  | some (amount, currency) =>
    match readCents amount with
    | .error failure => .error failure
    | .ok cents => .ok (⟨cents, String.ofList currency⟩, [])

end Money

/-- A version of two numbers. -/
structure Version where
  major : Integer UInt16Kind
  minor : Integer UInt16Kind
deriving DecidableEq

namespace Version

/-- The two numbers around the first point of a text. -/
def ofText (type text : String) : Outcome Version :=
  match splitAtChar '.' text.toList with
  | none => failFor (.unreadable text type)
  | some (major, minor) => do
    let major ← Scalar.readAll (.int UInt16Kind) (String.ofList major)
    let minor ← Scalar.readAll (.int UInt16Kind) (String.ofList minor)
    return ⟨major, minor⟩

end Version

/-- The records made from a single column; `home` is the path in front of their names. -/
inductive SelfDecoding where
  | money (home : String)
  | version (home : String)
deriving DecidableEq, Repr

namespace SelfDecoding

/-- The record that a column of the type holds. -/
@[reducible]
def Content : SelfDecoding → Type
  | money _ => Money
  | version _ => Version

/-- The name of the type in messages. -/
def typeName : SelfDecoding → String
  | money home => home ++ "::Money"
  | version home => home ++ "::Version"

/-- Nothing, of no currency; version zero. -/
def blank : (t : SelfDecoding) → t.Content
  | money _ => ⟨.zero Int64Kind, ""⟩
  | version _ => ⟨.zero UInt16Kind, .zero UInt16Kind⟩

/-- Reads a record from the start of a text. -/
def read : (t : SelfDecoding) → List Char → Outcome (t.Content × List Char)
  | money _, text => Money.read text
  | version home, text =>
    failFor (.unreadable (String.ofList text) (typeName (version home)))

/-- Makes a record from a value. -/
def ofValue : (t : SelfDecoding) → Value → Outcome t.Content
  | money home, value =>
    match value with
    | .text (some text) => readAllWith (typeName (money home)) Money.read text.toList
    | .untyped (some text) => readAllWith (typeName (money home)) Money.read text.toList
    | _ => refuse value "Money"
  | version home, value =>
    match value with
    | .text (some text) => Version.ofText (typeName (version home)) text
    | _ => refuse value "Version"

instance : ColumnFamily SelfDecoding where
  Content := Content
  typeName := typeName
  blank := blank
  nullValue _ := .text none
  ofValue := ofValue
  read := read

end SelfDecoding

/-- The columns of the catalogue: scalars and self decoding records, and the types built
from them. -/
abbrev Column := ColumnType (Scalar ⊕ SelfDecoding)

end RowBind.Catalog
