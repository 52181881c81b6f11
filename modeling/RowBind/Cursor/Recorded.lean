import RowBind.Cursor

/-!
# Cursors that are watched

A recorded cursor keeps an account of what is asked of it: every fetch with its outcome
and with the number of slots it was given, every close and every release, in order.

Main statement: `events_fetch`, a fetch is recorded once and behind everything before it.
-/

namespace RowBind

/-- What a cursor was asked for. -/
inductive CursorEvent where
  /-- A fetch through `slots` slots that delivered a row, or found none. -/
  | fetched (slots : Nat) (delivered : Bool)
  /-- A fetch through `slots` slots that failed. -/
  | failed (slots : Nat)
  | closed
  | released
deriving DecidableEq, Repr

/-- The cursor was asked for a row. -/
def CursorEvent.isFetch : CursorEvent → Bool
  | fetched .. | failed _ => true
  | closed | released => false

/-- A cursor with the account of what was asked of it. -/
structure Recorded (σ : Type) where
  cursor : σ
  events : List CursorEvent := []

namespace Recorded

variable {σ : Type}

/-- A cursor of which nothing was asked yet. -/
def ofCursor (cursor : σ) : Recorded σ := { cursor }

/-- The event of a fetch. -/
def eventOf (slots : Nat) : Outcome Bool → CursorEvent
  | .ok delivered => .fetched slots delivered
  | .error _ => .failed slots

theorem eventOf_isFetch (slots : Nat) (outcome : Outcome Bool) :
    (eventOf slots outcome).isFetch = true := by
  cases outcome <;> rfl

variable [Cursor σ]

/-- Fetches, and records it. -/
def fetch {τ : Type} [ColumnFamily τ] (recorded : Recorded σ) (slots : List (Slot τ)) :
    Fetched (Recorded σ) τ :=
  let fetched := Cursor.fetch recorded.cursor slots
  { outcome := fetched.outcome
    cursor := ⟨fetched.cursor, recorded.events ++ [eventOf slots.length fetched.outcome]⟩
    slots := fetched.slots
    log := fetched.log }

/-- Closes, and records it. -/
def close (recorded : Recorded σ) : Outcome Unit × Recorded σ :=
  let (outcome, cursor) := Cursor.close recorded.cursor
  (outcome, ⟨cursor, recorded.events ++ [.closed]⟩)

/-- Releases, and records it. -/
def release (recorded : Recorded σ) : Recorded σ :=
  ⟨Cursor.release recorded.cursor, recorded.events ++ [.released]⟩

instance : Cursor (Recorded σ) where
  columns recorded := Cursor.columns recorded.cursor
  hint recorded := Cursor.hint recorded.cursor
  fetch := fetch
  close := close
  release := release
  columns_fetch recorded slots := Cursor.columns_fetch recorded.cursor slots

instance [FiniteCursor σ] : FiniteCursor (Recorded σ) where
  remaining recorded := FiniteCursor.remaining recorded.cursor
  remaining_fetch recorded slots h := FiniteCursor.remaining_fetch recorded.cursor slots h

theorem events_fetch {τ : Type} [ColumnFamily τ] (recorded : Recorded σ) (slots : List (Slot τ)) :
    (Cursor.fetch recorded slots).cursor.events =
      recorded.events ++ [eventOf slots.length (Cursor.fetch recorded slots).outcome] := rfl

end Recorded

end RowBind
