import RowBind.Conformance.Trial

/-!
# Scenarios on conversions

A record with a column of every kind receives a row of values that fit, a row of nulls
wherever a column may be empty, and texts of unknown type, which are read.
-/

namespace RowBind.Conformance

open Number Calendar Catalog

/-- The columns of a record with a column of every kind. -/
def kindColumns : List String :=
  ["alpha", "bravo", "charlie", "delta", "echo", "foxtrot", "golf", "hotel", "india", "juliet",
   "kilo", "lima", "mike", "november", "oscar", "papa"]

/-- The text of an identifier. -/
def someId : String := "5e915574-bb30-4430-98cf-c5854f61fbbd"

/-- The identifier of that text. -/
def idValue : Value := .uuid (Uuid.ofText? someId.toList)

/-- Some day. -/
def someDate : Option Date := Date.ofFields? 2025 4 3

/-- Some time of day. -/
def someTime : Option TimeOfDay := TimeOfDay.ofFields? 12 0 10 0

/-- The day and the time together. -/
def someTimestamp : Option Timestamp := do
  return ⟨← someDate, ← someTime⟩

/-- The same at an offset of two hours. -/
def someZoned : Option ZonedTimestamp := do
  return ⟨← someTimestamp, ← Offset.ofSeconds? 7200⟩

/-- The greatest signed 128 bit integer. -/
def greatest : Value := .int ⟨true, .w128⟩ (Integer.ofInt? _ (IntKind.greatest ⟨true, .w128⟩))

/-- A list of two numbers. -/
def twoNumbers : Value := .list (some [int32 1, int32 2]) (.int ⟨true, .w32⟩ none)

/-- Some bytes. -/
def someBytes : Value := .bytes (some [0xCA, 0xFE])

/-- A value for every column. -/
def typedRow : Row :=
  [.int ⟨false, .w8⟩ (Integer.ofInt? _ 255), int64 777, .int ⟨true, .w8⟩ (Integer.ofInt? _ (-2)),
   word64 9876543210, idValue, greatest, .time someTime, textOf "Hello world!", .char (some 'x'),
   .decimal (Decimal.ofScaled? 12345 2) 10 2, .date someDate, .timestamp someTimestamp,
   .zoned someZoned, twoNumbers, someBytes, .bool (some true)]

/-- A null for every column that may be empty. -/
def nullRow : Row :=
  [.int ⟨false, .w8⟩ none, .int ⟨true, .w32⟩ none, .null, .int ⟨false, .w64⟩ none, .uuid none,
   .int ⟨true, .w128⟩ none, .time none, .text none, .char none, .decimal none 0 0, .date none,
   .timestamp none, .zoned none, .list none (.int ⟨true, .w32⟩ none), .bytes none,
   .bool (some false)]

/-- What the record has to hold after the row of values, the offset apart. -/
def typedContents : List (String × Value) :=
  ((kindColumns.zip typedRow).filter (·.1 != "mike"))

/-- What the record has to hold after the row of nulls, where anyone looks. -/
def nullContents : List (String × Value) :=
  (["alpha", "bravo", "charlie", "echo", "hotel", "india", "juliet", "mike", "oscar"].map
    fun column => (column, Value.null)) ++
  [("november", .list none .null), ("papa", .bool (some false))]

/-- A record of three columns that are read from text. -/
def untypedRecord (home : String) : RecordType :=
  record home "Untyped" [field "when" (.optional (scalar .timestamp)),
    field "amount" (scalar (.float .double)), field "id" (.optional (scalar .uuid))]

variable {σ : Type} [Cursor σ] [FiniteCursor σ]

/-- The scenarios on conversions. -/
def conversions (base : String) : List (Scenario σ) :=
  let blank := (simpleFields (base ++ "::types")).destination
  let untyped := (untypedRecord (base ++ "::types::types")).destination
  [{ columns := kindColumns
     rows := [typedRow]
     trial := do
       let (outcome, dest) ← first blank
       expectSuccess "Failed to get the typed row" outcome
       check (dest.shows typedContents)
       check ((dest.cell? "mike").bind Cell.offset? == some 7200) },
   { columns := kindColumns
     rows := [nullRow]
     trial := do
       let (outcome, dest) ← first blank
       expectSuccess "Failed to get the null row" outcome
       check (dest.shows nullContents) },
   { columns := ["when", "amount", "id"]
     rows := [[.untyped (some "2025-04-03 12:00:10"), .untyped (some "-3.25"),
       .untyped (some someId)]]
     trial := do
       let (outcome, rows) ← all untyped []
       expectSuccess "Failed to select untyped values" outcome
       let row ← rowAt rows 0
       check (row.shows [("when", .timestamp someTimestamp), ("amount", double true (13 / 4)),
         ("id", idValue)]) }]

end RowBind.Conformance
