import RowBind.Conformance.Trial

/-!
# Scenarios on the elements of lists

Every row read into a list becomes an element of its own, whether the list holds the
records themselves or points to them: all of them hold what their row says, each
whatever becomes of the others.
-/

namespace RowBind.Conformance

open Catalog

/-- What a point has to hold. -/
def pointOf (i : Nat) : List (String × Value) := [("x", double false i), ("y", double true i)]

/-- Three points. -/
def pointRows : List Row :=
  (List.range 3).map fun i : Nat => [double false i, double true i]

/-- The columns of points. -/
def pointColumns : List String := ["x", "y"]

variable {σ : Type} [Cursor σ] [FiniteCursor σ]

/-- The scenarios on the elements of lists. -/
def elements (base : String) : List (Scenario σ) :=
  let blank := (point (base ++ "::pointers")).destination
  [{ columns := pointColumns
     rows := pointRows
     trial := do
       let (outcome, boxed) ← all blank []
       expectSuccess "Failed to select boxed points" outcome
       check (Destination.allShow boxed ((List.range 3).map pointOf)) },
   { columns := pointColumns
     rows := pointRows
     trial := do
       let (outcome, shared) ← all blank []
       expectSuccess "Failed to select shared points" outcome
       check (shared.length == 3)
       check ((← rowAt shared 2).shows (pointOf 2)) },
   { columns := pointColumns
     rows := pointRows
     trial := do
       let (outcome, shared) ← all blank []
       expectSuccess "Failed to select rc points" outcome
       let second ← rowAt shared 1
       let _ ← rowAt shared 2
       check (second.shows [("y", double true 1)]) },
   { columns := pointColumns
     rows := pointRows
     trial := do
       let (outcome, points) ← all blank []
       expectSuccess "Failed to select points" outcome
       let first ← rowAt points 0
       check ((← rowAt points 1).shows (pointOf 1))
       check (first.shows [("x", double false 0)]) },
   { columns := ["label"]
     rows := [[textOf "a"], [textOf "b"]]
     trial := do
       let (outcome, labels) ← all (.column (.ofType string)) []
       expectSuccess "Failed to select boxed labels" outcome
       check (Destination.allShow labels [[("", textOf "a")], [("", textOf "b")]]) }]

end RowBind.Conformance
