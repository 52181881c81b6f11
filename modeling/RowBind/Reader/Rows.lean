import RowBind.Reader.Step

/-!
# Results as a whole

A reader can read one row and be done, or read the rows that are left into a list.  Every
reader is closed in the end, also one that is merely dropped; its cursor is then closed
and released once.

A list gets its elements one after the other.  Memory is no part of this: with the first
element, room is asked for as many as the hint of the cursor says, which makes no
difference to the elements but needs a hint for which there is room.

Main statements: `readMany_step`, which says how rows are read one after the other;
`close_closed`, closing a reader for a second time does nothing; `close_phase`, a closed
reader stays closed.
-/

namespace RowBind

/-- Records read one after the other, the reader after that, and what was logged. -/
structure Rows (σ τ : Type) [ColumnFamily τ] where
  dests : List (Destination τ)
  reader : Reader σ
  log : Log

/-- The type of the elements of a list: what a row is read into, with nothing assigned to
it yet, and how an element is made of that.  An element is the destination itself or
points to it. -/
structure ElementType (τ ε : Type) [ColumnFamily τ] where
  blank : Destination τ
  ofTarget : Destination τ → ε

/-- What a list holds after rows were to be read into it, the reader after that, and what
was logged. -/
structure Elements (σ ε : Type) where
  elements : List ε
  reader : Reader σ
  log : Log

/-- What the end of a reader brings about: whether all went well, the reader, what the
caller receives, and what was logged. -/
structure Ending (σ α : Type) where
  outcome : Outcome Unit
  reader : Reader σ
  result : α
  log : Log

namespace Reader

variable {σ τ ε : Type} [Cursor σ] [ColumnFamily τ]

/-! ## Many rows -/

/-- Reads rows into copies of a destination until there is none, or until a limit is
reached. -/
def readMany [FiniteCursor σ] (byField : Bool) (limit : Option Nat) (reader : Reader σ)
    (blank : Destination τ) : Rows σ τ :=
  if limit = some 0 then { dests := [], reader, log := [] }
  else
    let reading := reader.readRow byField blank
    if h : reading.delivered = true then
      let rows := readMany byField (limit.map (· - 1)) reading.reader blank
      { rows with dests := reading.dest :: rows.dests, log := reading.log ++ rows.log }
    else { dests := [], reader := reading.reader, log := reading.log }
termination_by FiniteCursor.remaining reader.cursor
decreasing_by exact reader.remaining_readRow byField blank h

/-- Reads rows by field, all that are left or as many as the limit says. -/
def records [FiniteCursor σ] (reader : Reader σ) (limit : Option Nat) (blank : Destination τ) :
    Rows σ τ :=
  reader.readMany true limit blank

/-! ## The end of a reader -/

/-- How the end turns out for a reader that has come to a phase, if closing the cursor
turns out as given, and what is logged: a failure that ended the reading comes first. -/
def verdict (phase : Phase) (closed : Outcome Unit) : Outcome Unit × Log :=
  match phase, closed with
  | .failed failure, .error second =>
    (.error failure, [⟨.debug, s!"Error while closing a failed cursor: {second.message}"⟩])
  | .failed failure, .ok () => (.error failure, [])
  | _, .error failure => (.error (failure.within .closing), [])
  | _, .ok () => (.ok (), [])

/-- Closes the reader: the cursor is closed and released, and the failure that ended the
reading comes out, or else the one that closing raises. -/
def close (reader : Reader σ) : Ending σ Unit :=
  match reader.phase with
  | .closed => { outcome := .ok (), reader, result := (), log := [] }
  | phase =>
    let (closed, cursor) := Cursor.close reader.cursor
    let (outcome, log) := verdict phase closed
    { outcome
      reader := { reader with cursor := Cursor.release cursor, phase := .closed }
      result := ()
      log }

/-- Drops the reader, which closes it; a failure is heard of in the log only. -/
def drop (reader : Reader σ) : Reader σ × Log :=
  let ending := reader.close
  match ending.outcome with
  | .ok () => (ending.reader, ending.log)
  | .error failure =>
    (ending.reader,
      ending.log ++ [⟨.error, s!"Row iterator dropped with an error: {failure.message}"⟩])

/-- Reads one row and closes the reader.  Where no row was read at all, that is a
failure. -/
def first (reader : Reader σ) (dest : Destination τ) : Ending σ (Destination τ) :=
  let reading := reader.read dest
  let ending := reading.reader.close
  let outcome := match ending.outcome with
    | .ok () => if ending.reader.rows = 0 then failFor .noRow else .ok ()
    | .error failure => .error failure
  { outcome
    reader := ending.reader
    result := reading.dest
    log := reading.log ++ ending.log }

/-- Why a list of rows cannot be read into copies of a destination, whatever the rows. -/
def refusal? (reader : Reader σ) (blank : Destination τ) : Option Cause :=
  let byField := (blank.routingForced reader.force).isByField
  let columns := (Cursor.columns reader.cursor).length
  if reader.force && !blank.isRecord then some (.forcedOnScalar blank.typeName)
  else if !byField && columns > 1 then some (.tooManyColumns blank.typeName columns)
  else if !byField && !blank.takesValue then some (.notDecodable blank.typeName)
  else none

/-- Reads every row that is left into an element of its own, in place of what the list
held.  A list that cannot be read for its shape is left as it is.  The room that is asked
for in advance, by the hint of the cursor, is not accounted for. -/
def collect [FiniteCursor σ] (reader : Reader σ) (element : ElementType τ ε) (list : List ε) :
    Elements σ ε :=
  match reader.start with
  | none => { elements := list, reader, log := [] }
  | some reader =>
    match reader.refusal? element.blank with
    | some cause => { elements := list, reader := reader.fail (.of cause), log := [] }
    | none =>
      let byField := (element.blank.routingForced reader.force).isByField
      let rows := reader.readMany byField none element.blank
      { elements := rows.dests.map element.ofTarget, reader := rows.reader, log := rows.log }

/-- Reads every row that is left into elements of a list and closes the reader. -/
def allAs [FiniteCursor σ] (reader : Reader σ) (element : ElementType τ ε) (list : List ε) :
    Ending σ (List ε) :=
  let rows := reader.collect element list
  let ending := rows.reader.close
  { outcome := ending.outcome
    reader := ending.reader
    result := rows.elements
    log := rows.log ++ ending.log }

/-- Reads every row that is left into copies of a destination and closes the reader. -/
def all [FiniteCursor σ] (reader : Reader σ) (blank : Destination τ)
    (list : List (Destination τ)) : Ending σ (List (Destination τ)) :=
  reader.allAs ⟨blank, id⟩ list

/-! ## Laws -/

theorem readMany_zero [FiniteCursor σ] (byField : Bool) (reader : Reader σ)
    (blank : Destination τ) :
    reader.readMany byField (some 0) blank = { dests := [], reader, log := [] } := by
  rw [readMany]
  simp

/-- One row is read, and then those behind it. -/
theorem readMany_step [FiniteCursor σ] (byField : Bool) {limit : Option Nat}
    (hlimit : limit ≠ some 0) (reader : Reader σ) (blank : Destination τ) :
    reader.readMany byField limit blank =
      let reading := reader.readRow byField blank
      if reading.delivered then
        let rows := reading.reader.readMany byField (limit.map (· - 1)) blank
        { rows with dests := reading.dest :: rows.dests, log := reading.log ++ rows.log }
      else { dests := [], reader := reading.reader, log := reading.log } := by
  rw [readMany, if_neg hlimit]
  cases h : (reader.readRow byField blank).delivered <;> simp [h]

/-- What every reading of a row keeps up, reading many rows keeps up. -/
theorem readMany_induction [FiniteCursor σ] {P : Reader σ → Prop} {byField : Bool}
    {blank : Destination τ}
    (hstep : ∀ reader, P reader → P (reader.readRow byField blank).reader)
    (limit : Option Nat) {reader : Reader σ} (h : P reader) :
    P (reader.readMany byField limit blank).reader := by
  fun_induction readMany byField limit reader blank with
  | case1 => exact h
  | case2 limit reader hlimit reading hdelivered rows ih => exact ih (hstep reader h)
  | case3 limit reader hlimit reading hdelivered => exact hstep reader h

/-- Dropping a reader closes it. -/
theorem drop_reader (reader : Reader σ) : reader.drop.1 = reader.close.reader := by
  unfold drop
  dsimp only
  split <;> rfl

theorem close_closed {reader : Reader σ} (h : reader.phase = .closed) :
    reader.close = { outcome := .ok (), reader, result := (), log := [] } := by
  simp [close, h]

/-- A closed reader stays closed. -/
theorem close_phase (reader : Reader σ) : reader.close.reader.phase = .closed := by
  unfold close
  split
  · assumption
  · rfl

/-- Closing a reader that is not closed closes and releases its cursor. -/
theorem close_cursor {reader : Reader σ} (h : reader.phase ≠ .closed) :
    reader.close.reader.cursor = Cursor.release (Cursor.close reader.cursor).2 := by
  unfold close
  split
  · next hclosed => exact absurd hclosed h
  · rfl

/-- The verdict on a reader is its failure, or else that of closing. -/
theorem close_outcome {reader : Reader σ} (h : reader.phase ≠ .closed) :
    reader.close.outcome =
      match reader.failure?, (Cursor.close reader.cursor).1 with
      | some failure, _ => .error failure
      | none, .error failure => .error (failure.within .closing)
      | none, .ok () => .ok () := by
  cases hphase : reader.phase <;> cases hclose : (Cursor.close reader.cursor).1 <;>
    simp_all [close, failure?, verdict]

/-- A reader that was closed is dropped as it is. -/
theorem drop_close (reader : Reader σ) : reader.close.reader.drop.1 = reader.close.reader := by
  rw [drop_reader, close_closed reader.close_phase]

end Reader

end RowBind
