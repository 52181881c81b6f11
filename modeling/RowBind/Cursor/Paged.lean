import RowBind.Cursor

/-!
# Cursors over rows in memory

A paged cursor holds all its rows and delivers them in pages, like a driver that receives
a few rows at a time.  Its hint is the size of the current page.  It counts the rows and
pages it delivered and how often it was closed and released, and it can be told to fail
at some row or on closing.

Main statement: `loadPage_rows`, loading a page delivers nothing yet.
-/

namespace RowBind

/-- What a paged cursor counts. -/
structure PagedStats where
  fetched : Nat := 0
  pages : Nat := 0
  closed : Nat := 0
  released : Nat := 0
deriving DecidableEq, Repr

/-- A cursor over rows in memory. -/
structure Paged where
  columns : List ColumnInfo
  /-- The rows not delivered yet. -/
  rows : List Row
  pageSize : Nat := 5000
  /-- The rows of the current page, zero before the first one. -/
  pageLength : Nat := 0
  /-- The rows of the current page not delivered yet. -/
  pageLeft : Nat := 0
  /-- The rows delivered. -/
  fetched : Nat := 0
  /-- The position of the row at which fetching fails. -/
  failAt : Option Nat := none
  /-- What closing fails with, the first time. -/
  closeError : Option String := none
  closed : Bool := false
  stats : PagedStats := {}

namespace Paged

/-- The cursor with pages of the given size, at least one row. -/
def withPageSize (cursor : Paged) (size : Nat) : Paged :=
  { cursor with pageSize := max size 1 }

/-- The current page, or the one that a fetch would load. -/
def hint (cursor : Paged) : Nat :=
  if cursor.pageLength = 0 then min cursor.pageSize cursor.rows.length else cursor.pageLength

/-- Loads a page if the current one is used up and rows are left. -/
def loadPage (cursor : Paged) : Paged × Log :=
  if cursor.pageLeft = 0 ∧ cursor.rows ≠ [] then
    let length := min cursor.pageSize cursor.rows.length
    let pages := cursor.stats.pages + 1
    ({ cursor with
        pageLength := length
        pageLeft := length
        stats := { cursor.stats with pages } },
      [⟨.debug, s!"Loaded page {pages} with {length} rows"⟩])
  else (cursor, [])

/-- Takes a row off the rows held. -/
def take (cursor : Paged) (rest : List Row) : Paged :=
  { cursor with
    rows := rest
    pageLeft := cursor.pageLeft - 1
    fetched := cursor.fetched + 1
    stats := { cursor.stats with fetched := cursor.stats.fetched + 1 } }

/-- Delivers the next row. -/
def fetch {τ : Type} [ColumnFamily τ] (cursor : Paged) (slots : List (Slot τ)) :
    Fetched Paged τ :=
  if cursor.closed then noRow cursor slots []
  else if cursor.failAt = some cursor.fetched then
    failedFetch cursor slots (.of (.told s!"Failure while fetching row {cursor.fetched}"))
  else
    let (cursor, log) := cursor.loadPage
    match cursor.rows with
    | [] => noRow cursor slots log
    | row :: rest => deliver (cursor.take rest) slots row log

/-- Closes the cursor; the error it was told to fail with comes out once. -/
def close (cursor : Paged) : Outcome Unit × Paged :=
  let after : Paged := { cursor with
    closed := true
    closeError := none
    stats := { cursor.stats with closed := cursor.stats.closed + 1 } }
  match cursor.closeError with
  | some text => (failFor (.told text), after)
  | none => (.ok (), after)

/-- Counts the release. -/
def release (cursor : Paged) : Paged :=
  { cursor with stats := { cursor.stats with released := cursor.stats.released + 1 } }

theorem loadPage_rows (cursor : Paged) : cursor.loadPage.1.rows = cursor.rows := by
  unfold loadPage
  split <;> rfl

theorem loadPage_columns (cursor : Paged) : cursor.loadPage.1.columns = cursor.columns := by
  unfold loadPage
  split <;> rfl

instance : Cursor Paged where
  columns := columns
  hint := hint
  fetch := fetch
  close := close
  release := release
  columns_fetch cursor slots := by
    unfold fetch
    split
    · rfl
    · split
      · rfl
      · dsimp only
        split
        · exact loadPage_columns cursor
        · simpa [take] using loadPage_columns cursor

instance : FiniteCursor Paged where
  remaining cursor := cursor.rows.length
  remaining_fetch cursor slots h := by
    simp only [Cursor.fetch] at h ⊢
    unfold fetch at h ⊢
    split at h
    · simp at h
    · split at h
      · simp at h
      · next hclosed hfail =>
        rw [if_neg hclosed, if_neg hfail]
        dsimp only at h ⊢
        split at h
        · simp at h
        · next row rest hrows =>
          rw [deliver_cursor]
          rw [loadPage_rows] at hrows
          simp [take, hrows]

end Paged

end RowBind
