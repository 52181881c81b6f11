import RowBind.Conformance.Trial

/-!
# Scenarios on columns without a field

A column that no field answers to is a failure before any row is fetched, and the first
failure stays; or such columns are dropped, if the caller wants that.  A value that does
not convert ends the reading with the rows read so far.
-/

namespace RowBind.Conformance

open Catalog

/-- What an account has to hold. -/
def accountOf (id : Int) (email : Option String) : List (String × Value) :=
  [("id", int64 id), ("email", .text email)]

/-- Accounts, with a column that their type does not know. -/
def accountRows : List Row :=
  [[int64 1, textOf "one@example.com", .bool (some true)],
   [int64 2, .text none, .bool (some false)]]

/-- The columns of such accounts. -/
def accountColumns : List String := ["id", "email", "active"]

/-- The column without a field, and the type of the destination. -/
def unmatched? (failure : Failure) : Option (String × String) :=
  match failure.cause with
  | .noField column type => some (column, type)
  | _ => none

variable {σ : Type} [Cursor σ] [FiniteCursor σ]

/-- The reader, with no row read and a destination as it was at the start. -/
def nothingRead (blank : List (String × Value)) (delivered : Bool) (dest : Destination Column) :
    Trial σ Unit := do
  check !delivered
  check ((← reader).rows == 0)
  check (dest.shows blank)

/-- The scenarios on columns without a field. -/
def unmatched (base : String) : List (Scenario σ) :=
  let blank := (account (base ++ "::missing")).destination
  [{ columns := accountColumns
     rows := accountRows
     trial := do
       let (delivered, dest) ← readFields blank
       nothingRead (accountOf 0 none) delivered dest
       match (← reader).failure? with
       | none => throw (.unmet "The missing field must be reported")
       | some failure =>
         match unmatched? failure with
         | none => throw (.unmet "Unexpected error None")
         | some (column, type) =>
           check (column == "active")
           check ("Account".toList.isSuffixOf type.toList)
       let (delivered, _) ← readFields dest
       check !delivered
       check ((← reader).rows == 0)
       let failure ← expectFailure "Close must return the first error" (← close)
       check (unmatched? failure).isSome },
   { columns := accountColumns
     rows := accountRows
     trial := do
       let (outcome, accounts) ← all blank []
       let failure ← expectFailure "Select must report the missing field" outcome
       check (unmatched? failure).isSome
       check accounts.isEmpty },
   { columns := accountColumns
     rows := accountRows
     dropUnmatched := true
     trial := do
       let (outcome, accounts) ← all blank []
       expectSuccess "Unsafe select must ignore the unmatched column" outcome
       check (Destination.allShow accounts
         [accountOf 1 (some "one@example.com"), accountOf 2 none]) },
   { columns := ["extra", "email", "id"]
     rows := [[.bytes (some [1, 2]), textOf "x@example.com", int64 9]]
     dropUnmatched := true
     trial := do
       let (outcome, dest) ← first blank
       expectSuccess "Unsafe get must ignore the unmatched column" outcome
       check (dest.shows (accountOf 9 (some "x@example.com"))) },
   { columns := ["id", "email"]
     rows := [[int64 1, .text none], [textOf "two", .text none], [int64 3, .text none]]
     trial := do
       let (outcome, accounts) ← all blank []
       let failure ← expectFailure "The second row cannot be converted" outcome
       check !failure.cause.isStructural
       check (Destination.allShow accounts [[("id", int64 1)]]) }]

end RowBind.Conformance
