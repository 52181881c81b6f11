import RowBind.Cursor.Paged

/-!
# The pages of a paged cursor

A fetch of a paged cursor takes one of a few courses.  It comes to nothing, since the cursor
was closed, or told to fail here, or since neither a page is under way nor rows are left for
another one; or it takes the next row off its page, which is loaded first if none is under
way.  There is one more course, that a page is under way and its next row is missing; whether
that can happen is not for a fetch to say.

The pages are cut off the rows from the front, so the page of a row is its position divided by
the size of the pages.

Main statements: `fetch_eq_course`, the course decides on a fetch; and `rowsOnPage_eq`, how
many rows there are on a page.
-/

namespace RowBind.Paged

/-! ## Courses -/

/-- The courses that a fetch can take. -/
inductive Course where
  /-- The cursor was closed. -/
  | closed
  /-- The cursor was told to fail here. -/
  | broken
  /-- No page is under way, and no rows are left for another one. -/
  | ended
  /-- A page is under way, but its next row is missing. -/
  | missing
  /-- The next row is taken off its page, and these are left. -/
  | row (row : Row) (rest : List Row)

/-- The course that the next fetch takes. -/
def course (cursor : Paged) : Course :=
  if cursor.closed then .closed
  else if cursor.failAt = some cursor.fetched then .broken
  else
    match cursor.rows with
    | [] => if cursor.pageLeft = 0 then .ended else .missing
    | row :: rest => .row row rest

/-- No page is loaded where no rows are left. -/
theorem loadPage_of_nil {cursor : Paged} (h : cursor.rows = []) :
    cursor.loadPage = (cursor, []) := by
  simp [loadPage, h]

/-- **The course decides on a fetch.** -/
theorem fetch_eq_course {τ : Type} [ColumnFamily τ] (cursor : Paged) (slots : List (Slot τ)) :
    cursor.fetch slots =
      match cursor.course with
      | .closed => noRow cursor slots []
      | .broken =>
        failedFetch cursor slots (.of (.told s!"Failure while fetching row {cursor.fetched}"))
      | .ended => noRow cursor slots []
      | .missing => noRow cursor slots []
      | .row row rest => deliver (cursor.loadPage.1.take rest) slots row cursor.loadPage.2 := by
  unfold fetch course
  cases hopen : cursor.closed with
  | true => rfl
  | false =>
      by_cases hfail : cursor.failAt = some cursor.fetched
      · simp only [hfail, Bool.false_eq_true, if_false, if_true]
      · simp only [hfail, Bool.false_eq_true, if_false]
        cases hrows : cursor.rows with
        | nil =>
            -- the two courses without a row are told apart by the page alone
            by_cases hleft : cursor.pageLeft = 0
            · simp only [loadPage_of_nil hrows, hrows, hleft, if_true]
            · simp only [loadPage_of_nil hrows, hrows, hleft, if_false]
        | cons row rest =>
            have hloaded : cursor.loadPage.1.rows = row :: rest := by rw [loadPage_rows, hrows]
            simp only [hloaded]

/-- A row is taken by a cursor that is open and not told to fail here, and it is the first of
the rows. -/
theorem of_course_eq_row {cursor : Paged} {row : Row} {rest : List Row}
    (h : cursor.course = .row row rest) :
    cursor.closed = false ∧ cursor.failAt ≠ some cursor.fetched ∧ cursor.rows = row :: rest := by
  unfold course at h
  split at h
  · cases h
  · next hopen =>
    split at h
    · cases h
    · next hfine =>
      split at h
      · split at h <;> cases h
      · next hrows =>
        cases h
        exact ⟨by simpa using hopen, hfine, hrows⟩

/-! ## Rows on pages -/

/-- The number of rows on a page, of `total` rows on pages of the given size. -/
def rowsOnPage (size total page : Nat) : Nat :=
  (List.range total).countP fun position => position / size = page

/-- A page is full, unless the rows end on it. -/
theorem rowsOnPage_eq {size : Nat} (hsize : 0 < size) (total page : Nat) :
    rowsOnPage size total page = min size (total - page * size) := by
  induction total with
  | zero => simp [rowsOnPage]
  | succ total ih =>
      have hon : total / size = page ↔ page * size ≤ total ∧ total < page * size + size := by
        rw [Nat.div_eq_iff hsize]
        omega
      rw [rowsOnPage] at ih ⊢
      rw [List.range_succ, List.countP_append, ih, List.countP_singleton]
      by_cases hpage : total / size = page
      · have hrange := hon.mp hpage
        simp only [hpage, decide_true, if_true]
        omega
      · have hrange := mt hon.mpr hpage
        simp only [hpage, decide_false, Bool.false_eq_true, if_false]
        omega

end RowBind.Paged
