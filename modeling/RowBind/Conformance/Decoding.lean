import RowBind.Conformance.Trial

/-!
# Scenarios on records that decode themselves

A record that is made from a single value is read from a single column, unless the
caller forces routing by field, and does not take several columns otherwise.
-/

namespace RowBind.Conformance

open Catalog

/-- What an amount of money has to hold. -/
def moneyOf (cents : Int) (currency : String) : List (String × Value) :=
  [("cents", int64 cents), ("currency", textOf currency)]

/-- The columns of an amount in two parts. -/
def moneyColumns : List String := ["currency", "cents"]

/-- An amount in two parts. -/
def moneyRows : List Row := [[textOf "JPY", int64 100]]

variable {σ : Type} [Cursor σ] [FiniteCursor σ]

/-- The scenarios on records that decode themselves. -/
def decoding (base : String) : List (Scenario σ) :=
  let blank := (money (base ++ "::decode")).destination
  [{ columns := ["price"]
     rows := [[textOf "12.34 EUR"], [textOf "5.00 USD"]]
     trial := do
       let (outcome, prices) ← all blank []
       expectSuccess "Failed to select the prices" outcome
       check (Destination.allShow prices [moneyOf 1234 "EUR", moneyOf 500 "USD"]) },
   { columns := ["price"]
     rows := [[.untyped (some "7.05 CHF")]]
     trial := do
       let (outcome, price) ← first blank
       expectSuccess "Failed to get the price" outcome
       check (price.shows (moneyOf 705 "CHF")) },
   { columns := moneyColumns
     rows := moneyRows
     force := true
     trial := do
       let (outcome, price) ← first blank
       expectSuccess "Failed to get the price field by field" outcome
       check (price.shows (moneyOf 100 "JPY")) },
   { columns := moneyColumns
     rows := moneyRows
     trial := do
       let (outcome, _) ← first blank
       check !outcome.isOk }]

end RowBind.Conformance
