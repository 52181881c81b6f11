import RowBind.Proofs.Cursor.Yielding
import RowBind.Proofs.Reader.Asking

/-!
# What a turn comes to

A reader over a cursor that yields its items one by one takes a turn in one of a few ways.
Nothing is asked of the cursor, since the reader has failed or something speaks against the
row; or the end is found; or a failure is met; or a row is refused when it is written; or a
row is read.  What is coming to the cursor decides between the last four, together with the
destination.

Main statements: `turnout_settled`, what asking the cursor comes to; and `turnout_readRow`,
what a turn comes to.
-/

namespace RowBind

variable {σ τ : Type} [ColumnFamily τ]

namespace Reader

/-- A reader that has not failed and is not closed is at work. -/
theorem isSome_start_of_fine {reader : Reader σ} (hopen : reader.phase ≠ .closed)
    (hfine : reader.failure? = none) : reader.start.isSome := by
  cases hphase : reader.phase <;> simp_all [start, failure?]

/-- A reader at work has not failed. -/
theorem failure?_of_start {reader : Reader σ} (hlive : reader.start.isSome) :
    reader.failure? = none := by
  cases hphase : reader.phase <;> simp_all [start, failure?]

variable [Cursor σ]

/-! ## What a turn comes to -/

/-- The ways in which a turn turns out, by the items that are coming to the cursor. -/
inductive Turnout (coming held : σ → List (Outcome Row)) (byField : Bool) (reader : Reader σ)
    (dest : Destination τ) : Reading σ τ → Prop
  /-- The reader has failed or was closed. -/
  | idle (hstart : reader.start = none) :
      Turnout coming held byField reader dest (nothing reader dest [])
  /-- Something speaks against the row, and the reader fails. -/
  | refused (hlive : reader.start.isSome) {failure : Failure}
      (hobjection : reader.objection? byField dest = some failure) {after : Reader σ}
      (hcursor : after.cursor = reader.cursor) (hrows : after.rows = reader.rows)
      (hfailed : after.failure? = some failure) (log : Log) :
      Turnout coming held byField reader dest (nothing after dest log)
  /-- The end of the result is found. -/
  | ended (hlive : reader.start.isSome) (hcoming : coming reader.cursor = []) {after : Reader σ}
      (hnext : coming after.cursor = []) (hheld : held after.cursor = held reader.cursor)
      (hrows : after.rows = reader.rows) (hfine : after.failure? = none) (log : Log) :
      Turnout coming held byField reader dest (nothing after dest log)
  /-- A failure is met, and the reader fails. -/
  | failed (hlive : reader.start.isSome) {failure : Failure} {items : List (Outcome Row)}
      (hcoming : coming reader.cursor = .error failure :: items) {after : Reader σ}
      (hheld : rowsOf (held after.cursor) = rowsOf (held reader.cursor))
      (hrows : after.rows = reader.rows) (hfailed : after.failure?.isSome) (log : Log) :
      Turnout coming held byField reader dest (nothing after dest log)
  /-- A row is refused when it is written, and the reader fails. -/
  | broken (hlive : reader.start.isSome) (hasked : reader.objection? byField dest = none)
      {row : Row} {items : List (Outcome Row)}
      (hcoming : coming reader.cursor = .ok row :: items) {after : Reader σ}
      (hheld : held reader.cursor = .ok row :: held after.cursor)
      (hrows : after.rows = reader.rows) (hfailed : after.failure?.isSome) {failure : Failure}
      (hwrite : (dest.write (reader.routesFor byField dest) row).1 = .error failure)
      (left : Destination τ) (log : Log) :
      Turnout coming held byField reader dest (nothing after left log)
  /-- A row is read. -/
  | taken (hlive : reader.start.isSome) {row : Row} {items : List (Outcome Row)}
      (hcoming : coming reader.cursor = .ok row :: items) {after : Reader σ}
      (hnext : coming after.cursor = items)
      (hheld : held reader.cursor = .ok row :: held after.cursor)
      (hrows : after.rows = reader.rows + 1) (hfine : after.failure? = none)
      {written : Destination τ}
      (hwrite : dest.write (reader.routesFor byField dest) row = (.ok (), written))
      (log : Log) : Turnout coming held byField reader dest
        { delivered := true, reader := after, dest := written, log }

variable {coming held : σ → List (Outcome Row)}

/-- What a turn comes to if the cursor is asked. -/
theorem turnout_settled {byField : Bool} {reader : Reader σ} {dest : Destination τ}
    {fetched : Fetched σ τ} {asking : Reader σ} (hlive : reader.start.isSome)
    (hasked : reader.objection? byField dest = none) (hrows : asking.rows = reader.rows)
    (hfine : asking.failure? = none) (log : Log)
    (htakes : Cursor.Takes coming held reader.cursor
      (dest.slotsThrough (reader.routesFor byField dest)) fetched) :
    Turnout coming held byField reader dest
      (settled { asking with cursor := fetched.cursor } fetched.outcome
        (dest.ofSlotsThrough (reader.routesFor byField dest) fetched.slots) log) := by
  cases htakes with
  | ended hcoming hnext hheld _ =>
      simp only [noRow, settled, Destination.ofSlotsThrough_slotsThrough]
      refine .ended hlive hcoming ?_ ?_ ?_ ?_ log
      · exact hnext
      · exact hheld
      · exact hrows
      · exact hfine
  | failed hcoming hnext hheld =>
      simp only [failedFetch, settled, Destination.ofSlotsThrough_slotsThrough]
      refine .failed hlive hcoming ?_ ?_ ?_ log
      · rw [hheld]
        rfl
      · exact hrows
      · rfl
  | stuck hcoming hnext hheld hfree =>
      simp only [failedFetch, settled, Destination.ofSlotsThrough_slotsThrough]
      refine .failed hlive hcoming ?_ ?_ ?_ log
      · exact congrArg rowsOf hheld
      · exact hrows
      · rfl
  | @row row items hcoming next hnext hheld _ =>
      rw [deliver_eq]
      cases hfilled : (fillRow (dest.slotsThrough (reader.routesFor byField dest)) row).1 with
      | ok =>
          refine .taken hlive hcoming ?_ ?_ ?_ ?_ ?_ log
          · exact hnext
          · exact hheld
          · exact congrArg (· + 1) hrows
          · exact hfine
          · rw [Destination.write, hfilled]
      | error failure =>
          have hrefused : (dest.write (reader.routesFor byField dest) row).1 =
              .error failure := hfilled
          refine .broken hlive hasked hcoming ?_ ?_ ?_ hrefused _ log
          · exact hheld
          · exact hrows
          · rfl

/-- **What a turn comes to.** -/
theorem turnout_readRow (h : Cursor.Yields coming held) (byField : Bool) (reader : Reader σ)
    (dest : Destination τ) :
    Turnout coming held byField reader dest (reader.readRow byField dest) := by
  by_cases hlive : reader.start.isSome
  · obtain ⟨hcursor, hrows, hfine⟩ := prepared_kept byField reader dest
    cases hobjection : reader.objection? byField dest with
    | some failure =>
        rw [readRow_objected hlive hobjection]
        refine .refused hlive hobjection ?_ ?_ rfl _
        · exact hcursor
        · exact hrows
    | none =>
        rw [readRow_asked hlive hobjection]
        exact turnout_settled hlive hobjection hrows hfine _ (h reader.cursor _)
  · rw [Option.not_isSome_iff_eq_none] at hlive
    rw [readRow_idle hlive]
    exact .idle hlive

end Reader

end RowBind
