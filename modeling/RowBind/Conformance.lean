import RowBind.Conformance.Delivery
import RowBind.Conformance.SingleColumns
import RowBind.Conformance.Elements
import RowBind.Conformance.Conversions
import RowBind.Conformance.Decoding
import RowBind.Conformance.Nesting

/-!
# The conformance suite

The suite tries out cursors of any one kind in a fixed series of scenarios, each with a
cursor made for the columns and rows that the scenario asks for.  It stops behind the
first scenario with a complaint.
-/

namespace RowBind.Conformance

variable {σ : Type} [Cursor σ]

/-- The scenarios; `base` is the path in front of the names of the types read into. -/
def suite [FiniteCursor σ] (base : String) : List (Scenario σ) :=
  delivery base ++ unmatched base ++ singleColumns base ++ elements base ++ conversions base ++
    decoding base ++ nesting base

/-- Runs scenarios with cursors made for them, up to the first complaint.  The cursors are
numbered, `index` being the number of the first. -/
def runFrom (make : Nat → List ColumnInfo → List Row → σ) (index : Nat) :
    List (Scenario σ) → List (Report σ)
  | [] => []
  | scenario :: scenarios =>
    let report := scenario.run (make index scenario.columnInfos scenario.rows)
    if report.complaint.isSome then [report]
    else report :: runFrom make (index + 1) scenarios

/-- Runs the suite with cursors made for its scenarios. -/
def runSuite [FiniteCursor σ] (base : String) (make : Nat → List ColumnInfo → List Row → σ) :
    List (Report σ) :=
  runFrom make 0 (suite base)

/-- What the suite complains about. -/
def complaint? (reports : List (Report σ)) : Option Complaint :=
  reports.getLast?.bind (·.complaint)

end RowBind.Conformance
