import RowBind.Cursor

/-!
# Cursors that are overheard

An overheard cursor keeps the failures that come out of its fetches, in order and as they
were.  For the rest it does what it does.

Main statement: `failures_fetch`, a fetch adds its failure, if it fails.
-/

namespace RowBind

/-- A cursor with the failures that came out of its fetches. -/
structure Overheard (σ : Type) where
  cursor : σ
  failures : List Failure := []

namespace Overheard

variable {σ : Type}

/-- A cursor of which no failure was heard yet. -/
def ofCursor (cursor : σ) : Overheard σ := { cursor }

/-- The failures of an outcome. -/
def failuresOf {α : Type} : Outcome α → List Failure
  | .ok _ => []
  | .error failure => [failure]

variable [Cursor σ]

/-- Fetches, and keeps the failure. -/
def fetch {τ : Type} [ColumnFamily τ] (overheard : Overheard σ) (slots : List (Slot τ)) :
    Fetched (Overheard σ) τ :=
  let fetched := Cursor.fetch overheard.cursor slots
  { outcome := fetched.outcome
    cursor := ⟨fetched.cursor, overheard.failures ++ failuresOf fetched.outcome⟩
    slots := fetched.slots
    log := fetched.log }

/-- Closes the cursor. -/
def close (overheard : Overheard σ) : Outcome Unit × Overheard σ :=
  let (outcome, cursor) := Cursor.close overheard.cursor
  (outcome, { overheard with cursor })

instance : Cursor (Overheard σ) where
  columns overheard := Cursor.columns overheard.cursor
  hint overheard := Cursor.hint overheard.cursor
  fetch := fetch
  close := close
  release overheard := { overheard with cursor := Cursor.release overheard.cursor }
  columns_fetch overheard slots := Cursor.columns_fetch overheard.cursor slots

instance [FiniteCursor σ] : FiniteCursor (Overheard σ) where
  remaining overheard := FiniteCursor.remaining overheard.cursor
  remaining_fetch overheard slots h := FiniteCursor.remaining_fetch overheard.cursor slots h

theorem failures_fetch {τ : Type} [ColumnFamily τ] (overheard : Overheard σ)
    (slots : List (Slot τ)) :
    (Cursor.fetch overheard slots).cursor.failures =
      overheard.failures ++ failuresOf (Cursor.fetch overheard slots).outcome := rfl

end Overheard

end RowBind
