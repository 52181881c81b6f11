import RowBind.Conformance.Trial

/-!
# Scenarios on the delivery of rows

Rows come in the order of the cursor, columns in any order; one row can be read and the
others left alone; no row at all is a failure for the reader of one row and none for the
reader of a list; and the end of a result stays the end.
-/

namespace RowBind.Conformance

open Catalog

/-- What an item has to hold. -/
def itemOf (id : Int) (name : String) : List (String × Value) :=
  [("id", int32 id), ("name", textOf name)]

/-- The row of an item. -/
def itemRow (id : Int) (name : String) : Row := [int32 id, textOf name]

/-- The name of the item with a number. -/
def itemName (id : Int) : String := s!"item{id}"

variable {σ : Type} [Cursor σ] [FiniteCursor σ]

/-- Reads items one after the other into one destination, as long as there are any but
at most `fuel` of them.  Every name has to fit its number; the numbers are collected. -/
def countItems : (fuel : Nat) → Destination Column → List Int → Trial σ (List Int)
  | 0, _, ids => return ids
  | fuel + 1, item, ids => do
    let (delivered, item) ← readFields item
    if delivered then
      let id := ((item.cell? "id").bind Cell.integer?).getD 0
      check (item.shows [("name", textOf (itemName id))])
      countItems fuel item (ids ++ [id])
    else return ids

/-- The scenarios on the delivery of rows. -/
def delivery (base : String) : List (Scenario σ) :=
  let type := item (base ++ "::simple")
  let blank := type.destination
  [{ columns := ["id", "name"]
     rows := [itemRow 1 "a", itemRow 2 "b"]
     trial := do
       let (outcome, items) ← all blank []
       expectSuccess "Failed to select the items" outcome
       check (Destination.allShow items [itemOf 1 "a", itemOf 2 "b"]) },
   { columns := ["name", "id"]
     rows := [[textOf "c", int32 3]]
     trial := do
       let (outcome, items) ← all blank []
       expectSuccess "Failed to select the permuted columns" outcome
       check (Destination.allShow items [itemOf 3 "c"]) },
   { columns := ["id", "name"]
     rows := [itemRow 1 "a"]
     trial := do
       let (outcome, item) ← first blank
       expectSuccess "Failed to get the item" outcome
       check (item.shows (itemOf 1 "a")) },
   { columns := ["id", "name"]
     rows := [itemRow 5 "first", itemRow 6 "second"]
     trial := do
       let (outcome, item) ← first blank
       expectSuccess "Failed to get the first item" outcome
       check (item.shows [("id", int32 5)]) },
   { columns := ["id", "name"]
     rows := []
     trial := do
       let (outcome, _) ← first blank
       let failure ← expectFailure "Get on an empty result must fail" outcome
       check failure.isNoRow },
   { columns := ["id", "name"]
     rows := []
     trial := do
       let (outcome, items) ← all blank [blank]
       expectSuccess "Select on an empty result must succeed" outcome
       check items.isEmpty },
   { columns := ["id", "name"]
     rows := (List.range 10).map fun i : Nat => itemRow i (itemName i)
     trial := do
       let fuel := FiniteCursor.remaining (← reader).cursor + 1
       let ids ← countItems fuel blank []
       check (← reader).failure?.isNone
       check ((← reader).rows == 10)
       expectSuccess "Failed to close the iterator" (← close)
       check (ids == (List.range 10).map Int.ofNat) },
   { columns := ["id", "name"]
     rows := [itemRow 1 "x", itemRow 2 "y", itemRow 3 "z"]
     trial := do
       let items ← records blank
       check (← reader).failure?.isNone
       check (Destination.allShow items (["x", "y", "z"].map fun name => [("name", textOf name)]))
       check (← records blank).isEmpty
       expectSuccess "Failed to close the iterator" (← close) }]

end RowBind.Conformance
