import RowBind.Cursor.Paged
import RowBind.Cursor.Feed
import RowBind.Cursor.Channel

/-!
# Cursors of any kind

A cursor whose kind is decided while the program runs: paged, a feed, or a channel.

Main statement: `columns_fetchAny`, the columns do not change.
-/

namespace RowBind

/-- A cursor of one of the kinds of the library. -/
inductive AnyCursor where
  | paged (cursor : Paged)
  | feed (cursor : Feed)
  | channel (cursor : Channel)

namespace AnyCursor

/-- A fetch, with the cursor put back among those of any kind. -/
def wrap {σ τ : Type} [ColumnFamily τ] (kind : σ → AnyCursor) (fetched : Fetched σ τ) :
    Fetched AnyCursor τ :=
  { outcome := fetched.outcome
    cursor := kind fetched.cursor
    slots := fetched.slots
    log := fetched.log }

/-- The columns of the result. -/
def columns : AnyCursor → List ColumnInfo
  | paged cursor => cursor.columns
  | feed cursor => cursor.columns
  | channel cursor => cursor.columns

/-- Delivers the next row. -/
def fetch {τ : Type} [ColumnFamily τ] : AnyCursor → List (Slot τ) → Fetched AnyCursor τ
  | paged cursor, slots => wrap paged (cursor.fetch slots)
  | feed cursor, slots => wrap feed (cursor.fetch slots)
  | channel cursor, slots => wrap channel (cursor.fetch slots)

/-- Ends the delivery. -/
def close : AnyCursor → Outcome Unit × AnyCursor
  | paged cursor => let (outcome, cursor) := cursor.close; (outcome, paged cursor)
  | feed cursor => let (outcome, cursor) := cursor.close; (outcome, feed cursor)
  | channel cursor => let (outcome, cursor) := cursor.close; (outcome, channel cursor)

theorem columns_fetchAny {τ : Type} [ColumnFamily τ] (cursor : AnyCursor)
    (slots : List (Slot τ)) : (cursor.fetch slots).cursor.columns = cursor.columns := by
  cases cursor with
  | paged cursor => exact Cursor.columns_fetch cursor slots
  | feed cursor => exact Cursor.columns_fetch cursor slots
  | channel cursor => exact Cursor.columns_fetch cursor slots

instance : Cursor AnyCursor where
  columns := columns
  hint
    | paged cursor => cursor.hint
    | feed cursor => cursor.hint
    | channel cursor => Cursor.hint cursor
  fetch := fetch
  close := close
  release
    | paged cursor => paged cursor.release
    | cursor => cursor
  columns_fetch := columns_fetchAny

instance : FiniteCursor AnyCursor where
  remaining
    | paged cursor => FiniteCursor.remaining cursor
    | feed cursor => FiniteCursor.remaining cursor
    | channel cursor => FiniteCursor.remaining cursor
  remaining_fetch cursor slots h := by
    cases cursor with
    | paged cursor => exact FiniteCursor.remaining_fetch cursor slots h
    | feed cursor => exact FiniteCursor.remaining_fetch cursor slots h
    | channel cursor => exact FiniteCursor.remaining_fetch cursor slots h

end AnyCursor

end RowBind
