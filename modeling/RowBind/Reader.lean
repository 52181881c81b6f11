import RowBind.Cursor
import RowBind.Route

/-!
# Readers

A reader takes the rows of a cursor and scans them into destinations, one row at a time:
as a single column, or by field into a record.  The columns are routed to the fields when
the first row is read by field, and the routes serve for every later row.

The first failure ends the reading.  The reader remembers it, and from then on it leaves
the cursor and every destination alone.

Main statement: `readRow_failed`, a reader that has failed reads nothing more and keeps
its failure.
-/

namespace RowBind

/-- How far a reader has come. -/
inductive Phase where
  | fresh
  /-- Rows are being read; the routes are known once a row was read by field. -/
  | reading (routes : Option Routes)
  | failed (failure : Failure)
  | closed

/-- A reader of the rows of a cursor. -/
structure Reader (σ : Type) where
  cursor : σ
  naming : Naming
  /-- Columns without a field are dropped instead of being a failure. -/
  dropUnmatched : Bool := false
  /-- Rows go to fields even where a record decodes itself. -/
  force : Bool := false
  /-- The number of rows read. -/
  rows : Nat := 0
  phase : Phase := .fresh

/-- What reading a row brings about: whether there was one, the reader and the
destination as they are then, and what was logged. -/
structure Reading (σ τ : Type) [ColumnFamily τ] where
  delivered : Bool
  reader : Reader σ
  dest : Destination τ
  log : Log := []

/-- A record type as a naming remembers it. -/
def Destination.key {τ : Type} [ColumnFamily τ] (dest : Destination τ) : TypeKey :=
  ⟨dest.typeName, dest.layout⟩

namespace Reader

variable {σ τ : Type} [ColumnFamily τ]

/-- A reader with names as they are written. -/
def ofCursor (cursor : σ) : Reader σ := { cursor, naming := .asWritten }

/-- The failure that ended the reading. -/
def failure? (reader : Reader σ) : Option Failure :=
  match reader.phase with
  | .failed failure => some failure
  | _ => none

/-- The reader with a failure that ends the reading. -/
def fail (reader : Reader σ) (failure : Failure) : Reader σ :=
  { reader with phase := .failed failure }

/-- Nothing is read, and the destination stays as it is. -/
def nothing (reader : Reader σ) (dest : Destination τ) (log : Log) : Reading σ τ :=
  { delivered := false, reader, dest, log }

/-- The reading that a fetch with the given outcome brings about. -/
def settled (reader : Reader σ) (outcome : Outcome Bool) (dest : Destination τ) (log : Log) :
    Reading σ τ :=
  match outcome with
  | .ok true => { delivered := true, reader := { reader with rows := reader.rows + 1 }, dest, log }
  | .ok false => nothing reader dest log
  | .error failure =>
    nothing (reader.fail (failure.within (.fetching (reader.rows + 1)))) dest log

/-- The reader at work, unless it has failed or was closed. -/
def start (reader : Reader σ) : Option (Reader σ) :=
  match reader.phase with
  | .fresh => some { reader with phase := .reading none }
  | .reading _ => some reader
  | .failed _ | .closed => none

@[simp]
theorem nothing_delivered (reader : Reader σ) (dest : Destination τ) (log : Log) :
    (nothing reader dest log).delivered = false := rfl

theorem settled_cursor (reader : Reader σ) (outcome : Outcome Bool) (dest : Destination τ)
    (log : Log) : (settled reader outcome dest log).reader.cursor = reader.cursor := by
  unfold settled
  split <;> rfl

theorem settled_delivered {reader : Reader σ} {outcome : Outcome Bool} {dest : Destination τ}
    {log : Log} (h : (settled reader outcome dest log).delivered = true) :
    outcome = .ok true := by
  unfold settled at h
  split at h
  · rfl
  · simp at h
  · simp at h

variable [Cursor σ]

/-! ## Single columns -/

/-- Fetches a row through one slot that leads to the destination. -/
def fetchColumn (reader : Reader σ) (dest : Destination τ) : Reading σ τ :=
  let fetched := Cursor.fetch reader.cursor [Slot.field dest]
  let dest := match fetched.slots with
    | [.field dest] => dest
    | _ => dest
  settled { reader with cursor := fetched.cursor } fetched.outcome dest fetched.log

/-- Reads a row as a single column, after a look at the shape of the result and of the
destination. -/
def scanColumn (reader : Reader σ) (dest : Destination τ) : Reading σ τ :=
  let columns := (Cursor.columns reader.cursor).length
  if columns > 1 then
    nothing (reader.fail (.of (.tooManyColumns dest.typeName columns))) dest []
  else if !dest.takesValue then
    nothing (reader.fail (.of (.notDecodable dest.typeName))) dest []
  else reader.fetchColumn dest

/-- Reads a row of a single column into a destination that takes a value. -/
def readColumn (reader : Reader σ) (dest : Destination τ) : Reading σ τ :=
  match reader.start with
  | none => nothing reader dest []
  | some reader => reader.scanColumn dest

/-! ## Fields -/

/-- The warning about a column whose values are dropped. -/
def droppedWarning (type column : String) : LogEntry :=
  ⟨.warning, s!"Column `{column}` has no destination field in {type}, its values will be discarded"⟩

/-- What is logged when the columns were routed. -/
def resolvedNote (type : String) (columns : List String) : LogEntry :=
  ⟨.debug, s!"Resolved {columns.length} columns into {type}: " ++ ", ".intercalate columns⟩

/-- Routes the columns of the cursor to the fields of a record type. -/
def resolve (reader : Reader σ) (dest : Destination τ) : Outcome Routes × Naming × Log :=
  if !dest.isRecord then (failFor (.notRecord dest.typeName), reader.naming, [])
  else
    let columns := Cursor.columnNames reader.cursor
    let (routes, naming, log) := reader.naming.routes dest.key columns
    let columnAt (i : Nat) : String := columns.getD i ""
    match routes.firstMissing?, reader.dropUnmatched with
    | some i, false => (failFor (.noField (columnAt i) dest.typeName), naming, log)
    | _, _ =>
      let warnings := routes.missing.map fun i => droppedWarning dest.typeName (columnAt i)
      (.ok routes, naming, log ++ warnings ++ [resolvedNote dest.typeName columns])

/-- Fetches a row through the slots that the routes lead to. -/
def fetchFields (reader : Reader σ) (routes : Routes) (dest : Destination τ) : Reading σ τ :=
  let fill (slots : List (Slot τ)) : Fetched σ τ × List (Slot τ) :=
    let fetched := Cursor.fetch reader.cursor slots
    (fetched, fetched.slots)
  match dest.withSlots routes fill with
  | (.ok fetched, dest) =>
    settled { reader with cursor := fetched.cursor } fetched.outcome dest fetched.log
  | (.error failure, dest) => settled reader (.error failure) dest []

/-- Reads a row by field, after the columns were routed. -/
def scanFields (reader : Reader σ) (dest : Destination τ) : Reading σ τ :=
  match reader.resolve dest with
  | (.error failure, naming, log) => nothing ({ reader with naming }.fail failure) dest log
  | (.ok routes, naming, log) =>
    let reading := { reader with naming, phase := .reading (some routes) }.fetchFields routes dest
    { reading with log := log ++ reading.log }

/-- Reads a row by field.  The columns are routed unless an earlier row has done so. -/
def readFields (reader : Reader σ) (dest : Destination τ) : Reading σ τ :=
  match reader.start with
  | none => nothing reader dest []
  | some reader =>
    match reader.phase with
    | .reading (some routes) => reader.fetchFields routes dest
    | _ => reader.scanFields dest

/-! ## Rows -/

/-- Reads a row, by field or as a single column. -/
def readRow (byField : Bool) (reader : Reader σ) (dest : Destination τ) : Reading σ τ :=
  if byField then reader.readFields dest else reader.readColumn dest

/-- Reads a row in the way that suits the destination. -/
def read (reader : Reader σ) (dest : Destination τ) : Reading σ τ :=
  reader.readRow (dest.routingForced reader.force).isByField dest

/-- A reader that has failed reads nothing more and keeps its failure. -/
theorem readRow_failed {reader : Reader σ} {failure : Failure}
    (h : reader.phase = .failed failure) (byField : Bool) (dest : Destination τ) :
    reader.readRow byField dest = nothing reader dest [] := by
  cases byField <;> simp [readRow, readFields, readColumn, start, h]

end Reader

end RowBind
