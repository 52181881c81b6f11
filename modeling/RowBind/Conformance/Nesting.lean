import RowBind.Conformance.Unmatched

/-!
# Scenarios on records inside records

Columns reach the fields of embedded and nested records under their names; a name that
was given explicitly takes the place of the identifier, ignored fields take no column,
and of several fields with one name the least deep one answers.
-/

namespace RowBind.Conformance

open Catalog

/-- The columns of customers. -/
def customerColumns : List String :=
  ["customer_id", "name", "created_by", "version", "address.street", "address.city"]

/-- Two customers. -/
def customerRows : List Row :=
  [[word64 10, textOf "Ada", textOf "admin", int32 3, textOf "Main St", textOf "Turin"],
   [word64 11, textOf "Grace", textOf "system", int32 1, textOf "Side St", textOf "Milan"]]

variable {σ : Type} [Cursor σ] [FiniteCursor σ]

/-- The scenarios on records inside records. -/
def nesting (base : String) : List (Scenario σ) :=
  let home := base ++ "::nested"
  let blank := (customer home).destination
  [{ columns := customerColumns
     rows := customerRows
     trial := do
       let (outcome, customers) ← all blank []
       expectSuccess "Failed to select the customers" outcome
       check (Destination.allShow customers
         [[("id", word64 10), ("_name", textOf "Ada"), ("audit.created_by", textOf "admin"),
           ("audit.version", int32 3)],
          [("address.city", textOf "Milan"), ("cached", .list none .null)]]) },
   { columns := ["id", "name"]
     rows := [[word64 1, textOf "Ada"]]
     trial := do
       let (outcome, _) ← first blank
       let failure ← expectFailure "`id` is not a column of Customer" outcome
       check ((unmatched? failure).any (·.1 == "id")) },
   { columns := ["customer_id", "cached"]
     rows := [[word64 1, textOf "x"]]
     trial := do
       let (outcome, _) ← first blank
       let failure ← expectFailure "`cached` is ignored" outcome
       check ((unmatched? failure).any (·.1 == "cached")) },
   { columns := ["customer_id", "ship.street", "ship.city"]
     rows := [[word64 2, textOf "Dock 4", textOf "Genoa"]]
     trial := do
       let (outcome, dest) ← first blank
       expectSuccess "Failed to get the shipping address" outcome
       check (dest.shows [("shipping.street", textOf "Dock 4"), ("shipping.city", textOf "Genoa"),
         ("address.street", textOf ""), ("address.city", textOf "")]) },
   { columns := ["version", "created_by"]
     rows := [[int64 7, textOf "me"]]
     trial := do
       let (outcome, dest) ← first (versioned home).destination
       expectSuccess "Failed to get the versioned record" outcome
       check (dest.shows [("version", int64 7), ("audit.version", int32 0),
         ("audit.created_by", textOf "me")]) },
   { columns := ["userId", "displayName"]
     rows := [[int32 5, textOf "Five"]]
     trial := do
       let (outcome, dest) ← first (camel home).destination
       expectSuccess "Failed to get the camel case record" outcome
       check (dest.shows [("user_id", int32 5), ("display_name", textOf "Five")]) }]

end RowBind.Conformance
