import RowBind.Conformance.Contents
import RowBind.Reader.Rows

/-!
# Scenarios

A scenario tries out a cursor: it is told which columns and rows the cursor has to
deliver, reads them through a reader, and complains at the first thing that is not as it
has to be.  A reader that is left open, which happens when a scenario stops in the
middle, is dropped.
-/

namespace RowBind.Conformance

open Number Catalog

/-- What a scenario complains about. -/
inductive Complaint where
  /-- A step did not turn out as it has to, with what was expected of it. -/
  | unmet (expectation : String)
  /-- Something is not what it has to be. -/
  | assertion
  /-- There are fewer rows than there have to be. -/
  | beyondEnd
deriving DecidableEq, Repr

/-- The message of a complaint. -/
def Complaint.message : Complaint → String
  | unmet expectation => expectation
  | assertion => "assertion"
  | beyondEnd => "index out of bounds"

/-- The reader as a scenario goes on, and what was logged. -/
structure Course (σ : Type) where
  reader : Reader σ
  log : Log := []

/-- Steps of a scenario, which stop at the first complaint. -/
abbrev Trial (σ : Type) := ExceptT Complaint (StateM (Course σ))

/-! ## Steps -/

section

variable {σ : Type}

/-- Complains unless the condition holds. -/
def check (holds : Bool) : Trial σ Unit :=
  if holds then pure () else throw .assertion

/-- Complains about a failure. -/
def expectSuccess (expectation : String) : Outcome Unit → Trial σ Unit
  | .ok () => pure ()
  | .error _ => throw (.unmet expectation)

/-- Complains unless there is a failure. -/
def expectFailure (expectation : String) : Outcome Unit → Trial σ Failure
  | .ok () => throw (.unmet expectation)
  | .error failure => pure failure

/-- The row at an index. -/
def rowAt {α : Type} (rows : List α) (i : Nat) : Trial σ α :=
  match rows[i]? with
  | some row => pure row
  | none => throw .beyondEnd

/-- The reader at this point. -/
def reader : Trial σ (Reader σ) := do
  return (← get).reader

/-- Goes on with a reader, after something was logged. -/
def goOn (reader : Reader σ) (log : Log) : Trial σ Unit :=
  modify fun course => { reader, log := course.log ++ log }

variable [Cursor σ]

/-- Goes on after a row was read. -/
def goOnAfter (reading : Reading σ Column) : Trial σ (Bool × Destination Column) := do
  goOn reading.reader reading.log
  return (reading.delivered, reading.dest)

/-- Reads a row of a single column. -/
def readColumn (dest : Destination Column) : Trial σ (Bool × Destination Column) := do
  goOnAfter ((← reader).readColumn dest)

/-- Reads a row by field. -/
def readFields (dest : Destination Column) : Trial σ (Bool × Destination Column) := do
  goOnAfter ((← reader).readFields dest)

/-- Reads the rows that are left, by field. -/
def records [FiniteCursor σ] (blank : Destination Column) : Trial σ (List (Destination Column)) := do
  let rows := (← reader).records none blank
  goOn rows.reader rows.log
  return rows.dests

/-- Goes on after the end of a reader. -/
def goOnAtEnd {α : Type} (ending : Ending σ α) : Trial σ (Outcome Unit × α) := do
  goOn ending.reader ending.log
  return (ending.outcome, ending.result)

/-- Reads one row and closes the reader. -/
def first (dest : Destination Column) : Trial σ (Outcome Unit × Destination Column) := do
  goOnAtEnd ((← reader).first dest)

/-- Reads all rows into a list and closes the reader. -/
def all [FiniteCursor σ] (blank : Destination Column) (list : List (Destination Column)) :
    Trial σ (Outcome Unit × List (Destination Column)) := do
  goOnAtEnd ((← reader).all blank list)

/-- Closes the reader. -/
def close : Trial σ (Outcome Unit) := do
  return (← goOnAtEnd (← reader).close).1

end

/-! ## Scenarios -/

/-- What a cursor has to deliver, and what is tried with it. -/
structure Scenario (σ : Type) where
  columns : List String
  rows : List Row
  dropUnmatched : Bool := false
  force : Bool := false
  trial : Trial σ Unit

/-- How a scenario went: what it complained about, the cursor as it was left, and what
was logged. -/
structure Report (σ : Type) where
  complaint : Option Complaint
  cursor : σ
  log : Log

namespace Scenario

variable {σ : Type} [Cursor σ]

/-- The columns of the scenario. -/
def columnInfos (scenario : Scenario σ) : List ColumnInfo :=
  scenario.columns.map fun name => { name }

/-- Tries out a cursor. -/
def run (scenario : Scenario σ) (cursor : σ) : Report σ :=
  let reader : Reader σ := { Reader.ofCursor cursor with
    dropUnmatched := scenario.dropUnmatched
    force := scenario.force }
  let (result, course) := scenario.trial.run { reader }
  let (reader, log) := course.reader.drop
  { complaint := match result with
      | .ok () => none
      | .error complaint => some complaint
    cursor := reader.cursor
    log := course.log ++ log }

end Scenario

/-! ## Values -/

/-- A signed 32 bit integer. -/
def int32 (n : Int) : Value := .int ⟨true, .w32⟩ (Integer.ofInt? _ n)

/-- A signed 64 bit integer. -/
def int64 (n : Int) : Value := .int ⟨true, .w64⟩ (Integer.ofInt? _ n)

/-- An unsigned 64 bit integer. -/
def word64 (n : Nat) : Value := .int ⟨false, .w64⟩ (Integer.ofInt? _ n)

/-- The floating point number nearest to a rational, of the given sign. -/
def double (negative : Bool) (q : Rat) : Value := .float .double (some (Binary.round .double negative q))

/-- A text. -/
def textOf (s : String) : Value := .text (some s)

end RowBind.Conformance
