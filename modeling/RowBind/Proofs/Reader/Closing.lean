import RowBind.Cursor.Recorded
import RowBind.Reader.Calls

/-!
# Closing the cursor of a reader

The cursor of a reader is watched over the whole life of the reader.  As long as the
reader is called, the cursor is asked for rows and for nothing else, whatever is read and
however it turns out.  When the reader is given up, its cursor is closed and released,
also where closing fails; dropping the reader after that asks nothing more of it.

Main statement: `closed_and_released_once`, the account of what is asked of a cursor is a
list of fetches, one close and one release, in this order.
-/

namespace RowBind.Reader

variable {σ τ ε : Type} [ColumnFamily τ]

/-- The reader is not closed, and its cursor was asked for nothing but rows. -/
structure OnlyFetched (reader : Reader (Recorded σ)) : Prop where
  phase_ne : reader.phase ≠ .closed
  isFetch : ∀ event ∈ reader.cursor.events, event.isFetch = true

/-- A fresh reader has asked its cursor for nothing. -/
theorem OnlyFetched.fresh (cursor : σ) (naming : Naming) (dropUnmatched force : Bool) :
    (Reader.fresh (.ofCursor cursor) naming dropUnmatched force).OnlyFetched :=
  ⟨by simp [Reader.fresh], by simp [Reader.fresh, Recorded.ofCursor]⟩

variable [Cursor σ]

/-- A step asks the cursor for a row, or for nothing. -/
theorem OnlyFetched.of_step {byField : Bool} {reader : Reader (Recorded σ)}
    {dest : Destination τ} {reading : Reading (Recorded σ) τ} (h : reader.OnlyFetched)
    (hstep : Step byField reader dest reading) : reading.reader.OnlyFetched := by
  refine ⟨hstep.phase_ne h.phase_ne, ?_⟩
  cases hstep with
  | idle => exact h.isFetch
  | refused => exact h.isFetch
  | fetched _ _ _ slots _ log =>
      rw [settled_cursor]
      intro event hmem
      rcases List.mem_append.mp hmem with hmem | hmem
      · exact h.isFetch event hmem
      · rw [List.mem_singleton.mp hmem]
        exact Recorded.eventOf_isFetch _ _

theorem OnlyFetched.readRow {reader : Reader (Recorded σ)} (h : reader.OnlyFetched)
    (byField : Bool) (dest : Destination τ) :
    (reader.readRow byField dest).reader.OnlyFetched :=
  h.of_step (step_readRow byField reader dest)

/-- Calls ask the cursor for nothing but rows. -/
theorem OnlyFetched.after {reader : Reader (Recorded σ)} (h : reader.OnlyFetched)
    (calls : List (Call τ)) : (reader.after calls).OnlyFetched :=
  after_induction (fun byField dest _ hreader => hreader.readRow byField dest) calls h

/-- Reading a list asks the cursor for nothing but rows, also where the list is refused. -/
theorem OnlyFetched.collect [FiniteCursor (Recorded σ)] {reader : Reader (Recorded σ)}
    (h : reader.OnlyFetched) (element : ElementType τ ε) (list : List ε) :
    (reader.collect element list).reader.OnlyFetched := by
  unfold Reader.collect
  cases hstart : reader.start with
  | none => exact h
  | some started =>
      obtain ⟨routes, rfl, -⟩ := eq_of_start hstart
      dsimp only
      split
      · exact ⟨by simp [fail], h.isFetch⟩
      · exact readMany_induction (fun _ hreader => hreader.readRow _ _) none
          ⟨by simp, h.isFetch⟩

/-- Closing the reader adds a close and a release to the account. -/
theorem OnlyFetched.events_close {reader : Reader (Recorded σ)} (h : reader.OnlyFetched) :
    reader.close.reader.cursor.events = reader.cursor.events ++ [.closed, .released] := by
  rw [close_cursor h.phase_ne]
  simp [Cursor.close, Cursor.release, Recorded.close, Recorded.release]

/-- However a reader is given up, it is closed once after all rows were read. -/
theorem OnlyFetched.finish {reader : Reader (Recorded σ)} (h : reader.OnlyFetched)
    (finish : Finish (Recorded σ) τ ε) :
    ∃ last : Reader (Recorded σ), last.OnlyFetched ∧
      finish.run reader = last.close.reader := by
  cases finish with
  | first dest =>
      exact ⟨(reader.read dest).reader, h.readRow _ dest, drop_close _⟩
  | all element list =>
      exact ⟨(reader.collect element list).reader, h.collect element list, drop_close _⟩
  | close => exact ⟨reader, h, drop_close reader⟩
  | drop => exact ⟨reader, h, drop_reader reader⟩

/-- **A cursor is closed and released exactly once.**  Whatever was read through a reader
and however it was given up, the cursor was asked for rows, then closed, then released,
and for nothing after that. -/
theorem closed_and_released_once (cursor : σ) (naming : Naming) (dropUnmatched force : Bool)
    (calls : List (Call τ)) (finish : Finish (Recorded σ) τ ε) :
    ∃ fetches : List CursorEvent, (∀ event ∈ fetches, event.isFetch = true) ∧
      (finish.run ((Reader.fresh (.ofCursor cursor) naming dropUnmatched force).after
        calls)).cursor.events = fetches ++ [.closed, .released] := by
  have hopen := (OnlyFetched.fresh cursor naming dropUnmatched force).after calls
  obtain ⟨last, hlast, hrun⟩ := hopen.finish finish
  refine ⟨last.cursor.events, hlast.isFetch, ?_⟩
  rw [hrun]
  exact hlast.events_close

end RowBind.Reader
