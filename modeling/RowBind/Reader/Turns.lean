import RowBind.Reader.Calls

/-!
# Turn by turn

A call on a reader asks it for a row, and a call for records asks it several times.  Each
time is a turn: the reader as it was, what the row was to be read into, and the reading that
came of it.  Records that have come to their end do not ask the reader any more; a turn of
theirs brings nothing about.

Main statements: `next_eq`, asking for the next record is a turn; and `turns_induction`,
what holds at the start and is kept up by every turn holds of the turns of all calls and of
the reader after them.
-/

namespace RowBind

/-- One time that a row is asked for. -/
structure Turn (σ τ : Type) [ColumnFamily τ] where
  byField : Bool
  /-- The reader as it was. -/
  reader : Reader σ
  /-- What the row is to be read into. -/
  dest : Destination τ
  reading : Reading σ τ

variable {σ τ : Type} [Cursor σ] [ColumnFamily τ]

namespace Records

/-- The reading that asking for the next record brings about. -/
def reading (records : Records σ τ) : Reading σ τ :=
  if records.done then Reader.nothing records.reader records.blank []
  else records.reader.readFields records.blank

/-- The turns of asking for records. -/
def turns : Nat → Records σ τ → List (Turn σ τ)
  | 0, _ => []
  | count + 1, records =>
    { byField := true
      reader := records.reader
      dest := records.blank
      reading := records.reading } :: turns count records.next.2.1

/-- Asking for the next record is a turn: there is one if the reading delivers it, and
there will be none after one that was not there. -/
theorem next_eq (records : Records σ τ) :
    records.next =
      (if records.reading.delivered then some records.reading.dest else none,
        { records with reader := records.reading.reader, done := !records.reading.delivered },
        records.reading.log) := by
  rcases records with ⟨reader, blank, _ | _⟩
  · cases hd : (reader.readFields blank).delivered <;> simp [next, reading, hd]
  · simp [next, reading, Reader.nothing]

end Records

/-- The turns of a call. -/
def Call.turns (reader : Reader σ) : Call τ → List (Turn σ τ)
  | column dest => [{ byField := false, reader, dest, reading := reader.readColumn dest }]
  | fields dest => [{ byField := true, reader, dest, reading := reader.readFields dest }]
  | records blank count => Records.turns count { reader, blank }

namespace Reader

/-- The turns of some calls. -/
def turns (reader : Reader σ) : List (Call τ) → List (Turn σ τ)
  | [] => []
  | call :: calls => call.turns reader ++ (call.run reader).turns calls

section

variable {P : List (Turn σ τ) → Reader σ → Prop}
  (hasked : ∀ turns reader byField dest, P turns reader →
    P (turns ++ [{ byField, reader, dest, reading := reader.readRow byField dest }])
      (reader.readRow byField dest).reader)
  (hspared : ∀ turns reader dest, P turns reader →
    (∃ turn ∈ turns, turn.reading.delivered = false) →
      P (turns ++ [{ byField := true, reader, dest, reading := nothing reader dest [] }]) reader)

include hasked hspared

/-- What every turn keeps up, asking for records keeps up.  Records that are done have had
a turn that brought none. -/
theorem ask_turns_induction {before : List (Turn σ τ)} (records : Records σ τ)
    (h : P before records.reader)
    (hdone : records.done = true → ∃ turn ∈ before, turn.reading.delivered = false)
    (count : Nat) : P (before ++ records.turns count) (records.ask count).reader := by
  induction count generalizing before records with
  | zero => simpa [Records.turns, Records.ask] using h
  | succ count ih =>
      have hturn : P (before ++ [⟨true, records.reader, records.blank, records.reading⟩])
          records.reading.reader := by
        cases hd : records.done with
        | true =>
            simp only [Records.reading, hd]
            exact hspared before records.reader records.blank h (hdone hd)
        | false =>
            simp only [Records.reading, hd]
            exact hasked before records.reader true records.blank h
      rw [Records.turns, Records.ask, List.append_cons, Records.next_eq]
      refine ih _ hturn fun hnone => ?_
      refine ⟨_, List.mem_append_right before List.mem_cons_self, ?_⟩
      simpa using hnone

/-- **Induction over turns.**  What holds at the start and is kept up by every turn holds of
the turns of all calls and of the reader after them. -/
theorem turns_induction {reader : Reader σ} (hstart : P [] reader) (calls : List (Call τ)) :
    P (reader.turns calls) (reader.after calls) := by
  suffices hrun : ∀ before, P before reader →
      P (before ++ reader.turns calls) (reader.after calls) from hrun [] hstart
  clear hstart
  induction calls generalizing reader with
  | nil =>
      intro before h
      rw [turns, List.append_nil]
      exact h
  | cons call calls ih =>
      intro before h
      have hcall : P (before ++ call.turns reader) (call.run reader) := by
        cases call with
        | column dest => exact hasked before reader false dest h
        | fields dest => exact hasked before reader true dest h
        | records blank count =>
            exact ask_turns_induction hasked hspared { reader, blank } h (by simp) count
      have hrest := ih (before ++ call.turns reader) hcall
      rwa [List.append_assoc] at hrest

end

end Reader

end RowBind
