import RowBind.Reader.Rows

/-!
# The life of a reader

A reader is made over a cursor, then called any number of times, and given up in the end.
A call reads a row as a single column, or by field, or asks for records one after the
other.  A reader is given up by reading a single row, by reading all rows that are left,
by closing it, or by dropping it; whatever else was done, dropping comes last.

Main statements: `after_induction`, what every reading of a row keeps up holds however a
reader was called; `next_of_done`, records that have come to their end stay there; and
`reader_ask`, asking for records one by one leaves the reader as reading as many of them
at once does.
-/

namespace RowBind

/-- A reader that nothing was asked of yet. -/
def Reader.fresh {σ : Type} (cursor : σ) (naming : Naming) (dropUnmatched force : Bool) :
    Reader σ :=
  { cursor, naming, dropUnmatched, force }

/-! ## Records one after the other -/

/-- Records that are asked for one after the other, each a copy of the same destination
read by field. -/
structure Records (σ τ : Type) [ColumnFamily τ] where
  reader : Reader σ
  blank : Destination τ
  /-- There was no record when the last one was asked for. -/
  done : Bool := false

namespace Records

variable {σ τ : Type} [Cursor σ] [ColumnFamily τ]

/-- The next record, if there is one, and the records after that. -/
def next (records : Records σ τ) : Option (Destination τ) × Records σ τ × Log :=
  if records.done then (none, records, [])
  else
    let reading := records.reader.readFields records.blank
    if reading.delivered then
      (some reading.dest, { records with reader := reading.reader }, reading.log)
    else (none, { records with reader := reading.reader, done := true }, reading.log)

/-- The records after some were asked for. -/
def ask : Nat → Records σ τ → Records σ τ
  | 0, records => records
  | count + 1, records => ask count records.next.2.1

/-- Records that have come to their end stay there. -/
theorem next_of_done {records : Records σ τ} (h : records.done = true) :
    records.next = (none, records, []) := by
  simp [next, h]

theorem ask_of_done {records : Records σ τ} (h : records.done = true) (count : Nat) :
    records.ask count = records := by
  induction count with
  | zero => rfl
  | succ count ih => rw [ask, next_of_done h, ih]

/-- Asking for a record reads a row, as long as the end was not reached. -/
theorem reader_next {records : Records σ τ} (h : records.done = false) :
    records.next.2.1.reader = (records.reader.readFields records.blank).reader := by
  cases hd : (records.reader.readFields records.blank).delivered <;> simp [next, h, hd]

theorem blank_next (records : Records σ τ) : records.next.2.1.blank = records.blank := by
  unfold next
  split
  · rfl
  · dsimp only
    split <;> rfl

/-- Asking for records one by one leaves the reader as reading as many at once does. -/
theorem reader_ask [FiniteCursor σ] {records : Records σ τ} (h : records.done = false)
    (count : Nat) :
    (records.ask count).reader =
      (records.reader.records (some count) records.blank).reader := by
  induction count generalizing records with
  | zero => simp [ask, Reader.records, Reader.readMany_zero]
  | succ count ih =>
      rw [ask, Reader.records, Reader.readMany_step true (by simp)]
      cases hd : (records.reader.readFields records.blank).delivered with
      | true =>
          have hdone : records.next.2.1.done = false := by simp [next, h, hd]
          rw [ih hdone, reader_next h, blank_next]
          simp [Reader.readRow, Reader.records, hd]
      | false =>
          have hdone : records.next.2.1.done = true := by simp [next, h, hd]
          rw [ask_of_done hdone, reader_next h]
          simp [Reader.readRow, hd]

end Records

/-! ## Calls -/

/-- A call on a reader. -/
inductive Call (τ : Type) [ColumnFamily τ] where
  /-- A row is read as a single column. -/
  | column (dest : Destination τ)
  /-- A row is read by field. -/
  | fields (dest : Destination τ)
  /-- Records are asked for, `count` times. -/
  | records (blank : Destination τ) (count : Nat)

namespace Call

variable {σ τ : Type} [ColumnFamily τ]

/-- The relation `R` holds between the way of reading, by field or not, and the destination
of the call. -/
def All (R : Bool → Destination τ → Prop) : Call τ → Prop
  | column dest => R false dest
  | fields dest => R true dest
  | records blank _ => R true blank

/-- The reader after the call. -/
def run [Cursor σ] (reader : Reader σ) : Call τ → Reader σ
  | column dest => (reader.readColumn dest).reader
  | fields dest => (reader.readFields dest).reader
  | records blank count => (Records.ask count { reader, blank }).reader

end Call

namespace Reader

variable {σ τ : Type} [Cursor σ] [ColumnFamily τ]

/-- The reader after some calls. -/
def after (reader : Reader σ) (calls : List (Call τ)) : Reader σ :=
  calls.foldl Call.run reader

/-- What every reading of a row keeps up, records that are asked for keep up. -/
theorem ask_induction {P : Reader σ → Prop} {records : Records σ τ}
    (hstep : ∀ reader, P reader → P (reader.readFields records.blank).reader)
    (h : P records.reader) (count : Nat) : P (records.ask count).reader := by
  induction count generalizing records with
  | zero => exact h
  | succ count ih =>
      rw [Records.ask]
      cases hdone : records.done with
      | true =>
          rw [Records.next_of_done hdone]
          exact ih hstep h
      | false =>
          refine ih ?_ ?_
          · rwa [Records.blank_next]
          · rw [Records.reader_next hdone]
            exact hstep records.reader h

/-- What every reading of a row keeps up, if it is one of those that `R` allows, holds
after calls that read in these ways only. -/
theorem after_induction_of {P : Reader σ → Prop} {R : Bool → Destination τ → Prop}
    (hstep : ∀ byField dest, R byField dest → ∀ reader, P reader →
      P (reader.readRow byField dest).reader)
    {calls : List (Call τ)} (hcalls : ∀ call ∈ calls, call.All R)
    {reader : Reader σ} (h : P reader) : P (reader.after calls) := by
  induction calls generalizing reader with
  | nil => exact h
  | cons call calls ih =>
      refine ih (fun other hmem => hcalls other (List.mem_cons_of_mem call hmem)) ?_
      have hreads := hcalls call List.mem_cons_self
      cases call with
      | column dest => exact hstep false dest hreads reader h
      | fields dest => exact hstep true dest hreads reader h
      | records blank count => exact ask_induction (hstep true blank hreads) h count

/-- **Induction over calls.**  What every reading of a row keeps up holds however a reader
was called. -/
theorem after_induction {P : Reader σ → Prop}
    (hstep : ∀ byField (dest : Destination τ) reader, P reader →
      P (reader.readRow byField dest).reader)
    (calls : List (Call τ)) {reader : Reader σ} (h : P reader) : P (reader.after calls) := by
  refine after_induction_of (R := fun _ _ => True) ?_ ?_ h
  · intro byField dest _
    exact hstep byField dest
  · intro call _
    cases call <;> trivial

/-- Calls leave a reader open. -/
theorem after_phase_ne {reader : Reader σ} (h : reader.phase ≠ .closed)
    (calls : List (Call τ)) : (reader.after calls).phase ≠ .closed :=
  after_induction (P := fun reader => reader.phase ≠ .closed)
    (fun byField dest reader => (step_readRow byField reader dest).phase_ne) calls h

end Reader

/-! ## The end -/

/-- How a reader is given up. -/
inductive Finish (σ τ ε : Type) [Cursor σ] [ColumnFamily τ] where
  /-- A single row is read into a destination. -/
  | first (dest : Destination τ)
  /-- All rows that are left are read into a list; the result must have an end. -/
  | all [FiniteCursor σ] (element : ElementType τ ε) (list : List ε)
  | close
  | drop

/-- The reader when it is gone.  Dropping it comes last, whatever was done before. -/
def Finish.run {σ τ ε : Type} [Cursor σ] [ColumnFamily τ] (reader : Reader σ) :
    Finish σ τ ε → Reader σ
  | first dest => (reader.first dest).reader.drop.1
  | all element list => (reader.allAs element list).reader.drop.1
  | close => reader.close.reader.drop.1
  | drop => reader.drop.1

end RowBind
