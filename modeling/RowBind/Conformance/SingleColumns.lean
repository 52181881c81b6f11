import RowBind.Conformance.Unmatched

/-!
# Scenarios on single columns

A result of one column is read into destinations of a single value; a result of several
is refused before any row is fetched, and so are forced routing by field into a type
without fields and a single column into a record that cannot be made from it.  What the
caller had is then left as it was.
-/

namespace RowBind.Conformance

open Number Catalog

/-- A destination of a single column. -/
def columnOf (type : Column) (value : Value) : Destination Column :=
  let cell := Cell.ofType type
  .column ((cell.receive value).toOption.getD cell)

/-- What a single column has to hold. -/
def held (value : Value) : List (String × Value) := [("", value)]

/-- The failure is that of a result of two columns. -/
def isTwoColumns (failure : Failure) : Bool :=
  match failure.cause with
  | .tooManyColumns _ columns => columns == 2
  | _ => false

/-- The failure is that of forcing routing by field. -/
def isForced (failure : Failure) : Bool :=
  match failure.cause with
  | .forcedOnScalar _ => true
  | _ => false

/-- The failure is that of a type without fields. -/
def isNotRecord (failure : Failure) : Bool :=
  match failure.cause with
  | .notRecord _ => true
  | _ => false

/-- The failure is that of a record that cannot be made from a single column. -/
def isNotDecodable (failure : Failure) : Bool :=
  match failure.cause with
  | .notDecodable _ => true
  | _ => false

/-- One row of two columns. -/
def twoColumns : List String := ["a", "b"]

/-- The row of two columns. -/
def twoValues : List Row := [[int32 1, int32 2]]

/-- A whole decimal. -/
def wholeDecimal (n : Int) : Value := .decimal (Decimal.ofScaled? n 0) 0 0

variable {σ : Type} [Cursor σ] [FiniteCursor σ]

/-- The scenarios on results of one column and on their refusals. -/
def singleValues (base : String) : List (Scenario σ) :=
  let number := columnOf i32 (int32 0)
  let count := columnOf i64 (int64 0)
  let counter := (Catalog.counter (base ++ "::scalars")).destination
  [{ columns := ["count"]
     rows := [10, 20, 30, 40].map fun n => [int64 n]
     trial := do
       let (outcome, counts) ← all count []
       expectSuccess "Failed to select the counts" outcome
       check (Destination.allShow counts ([10, 20, 30, 40].map fun n => held (int64 n))) },
   { columns := ["total"]
     rows := [[wholeDecimal 42]]
     trial := do
       let (outcome, total) ← first (columnOf (integer false .w16) .null)
       expectSuccess "Failed to get the total" outcome
       check (total.shows (held (int32 42))) },
   { columns := ["note"]
     rows := [[textOf "first"], [.text none], [.null]]
     trial := do
       let (outcome, notes) ← all (columnOf (.optional string) .null) []
       expectSuccess "Failed to select the notes" outcome
       check (Destination.allShow notes [held (textOf "first"), held .null, held .null]) },
   { columns := twoColumns
     rows := twoValues
     trial := do
       let (delivered, dest) ← readColumn number
       nothingRead (held (int32 0)) delivered dest
       let failure ← expectFailure "Scan with two columns must fail" (← close)
       check (isTwoColumns failure) },
   { columns := twoColumns
     rows := twoValues
     trial := do
       let (outcome, dest) ← first number
       let failure ← expectFailure "Get with two columns must fail" outcome
       check (isTwoColumns failure)
       check (dest.shows (held (int32 0))) },
   { columns := twoColumns
     rows := twoValues
     trial := do
       let (outcome, numbers) ← all number [columnOf i32 (int32 7)]
       let failure ← expectFailure "Select with two columns must fail" outcome
       check (isTwoColumns failure)
       check (Destination.allShow numbers [held (int32 7)]) },
   { columns := ["count"]
     rows := [[int64 1]]
     force := true
     trial := do
       let (outcome, _) ← all count []
       let failure ← expectFailure "Forced struct select into scalars must fail" outcome
       check (isForced failure) },
   { columns := ["count"]
     rows := [[int64 1]]
     force := true
     trial := do
       let (outcome, _) ← first count
       let failure ← expectFailure "Forced struct get into a scalar must fail" outcome
       check (isNotRecord failure) },
   { columns := ["count"]
     rows := [[int64 3], [int64 4]]
     force := true
     trial := do
       let (outcome, counters) ← all counter []
       expectSuccess "Failed to select the counters" outcome
       check (Destination.allShow counters [[("count", int64 3)], [("count", int64 4)]]) }]

/-- The scenarios on single columns and records. -/
def singleRecords (base : String) : List (Scenario σ) :=
  let counter := (Catalog.counter (base ++ "::scalars")).destination
  let tag := Catalog.tag (base ++ "::scalars")
  [{ columns := ["label"]
     rows := [[textOf "a"]]
     trial := do
       let kept : Destination Column := .record tag.info (.ignored "label" ⟨string, "kept"⟩ .nil)
       let (outcome, dest) ← first kept
       let failure ← expectFailure "Get into a record without fields must fail" outcome
       check (isNotDecodable failure)
       check (dest.shows [("label", textOf "kept")]) },
   { columns := ["label"]
     rows := [[textOf "a"]]
     trial := do
       let (outcome, tags) ← all tag.destination [tag.destination]
       let failure ← expectFailure "Select into records without fields must fail" outcome
       check (isNotDecodable failure)
       check (tags.length == 1) },
   { columns := ["count"]
     rows := [[int64 9]]
     trial := do
       let (delivered, dest) ← readColumn counter
       nothingRead [("count", int64 0)] delivered dest
       let failure ← expectFailure "Scan into a field routed record must fail" (← close)
       check (isNotDecodable failure) }]

/-- The scenarios on single columns. -/
def singleColumns (base : String) : List (Scenario σ) :=
  singleValues base ++ singleRecords base

end RowBind.Conformance
