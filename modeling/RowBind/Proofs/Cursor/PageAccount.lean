import RowBind.Cursor.Pages
import RowBind.Proofs.Cursor.Alike

/-!
# The account of a paged cursor

A paged cursor keeps several counts: of the rows it delivered, of the pages it loaded, of the
rows on the current page and of those that are left on it.  They hang together.  What was
taken and what is left on the current page make up the pages that were loaded, as far as the
rows go, and the last of these pages was begun.  From this it follows how each count reads,
that no row is ever missing from a page, and that there is always one to be counted off.

All of this holds whatever the cursor is asked for, and whatever becomes of the rows in the
slots.

Main statements: `Paging.request`, a request keeps the counts together; `Paging.afterAll`, so
do any requests; and `pageAccount_afterAll`, the account after any requests.
-/

namespace RowBind.Paged

open Cursor

variable {τ : Type} [ColumnFamily τ]

/-! ## The rows taken -/

/-- The row that a request takes, if it takes one. -/
def takenBy (cursor : Paged) : Request τ → List Row
  | .fetch _ =>
    match cursor.course with
    | .row row _ => [row]
    | _ => []
  | .close => []

/-- The rows that requests take, one after the other. -/
def takenByAll (cursor : Paged) : List (Request τ) → List Row
  | [] => []
  | request :: requests =>
    takenBy cursor request ++ takenByAll (request.run cursor) requests

/-- A request is to close the cursor. -/
def isClose : Request τ → Bool
  | .fetch _ => false
  | .close => true

/-! ## How the counts hang together -/

/-- The counts of a cursor that has taken some of its rows, on pages of the given size. -/
structure Paging (size : Nat) (rows : List Row) (failAt : Option Nat) (taken : List Row)
    (cursor : Paged) : Prop where
  size_eq : cursor.pageSize = size
  failAt_eq : cursor.failAt = failAt
  rows_eq : taken ++ cursor.rows = rows
  fetched_eq : cursor.fetched = taken.length
  counted_eq : cursor.stats.fetched = taken.length
  /-- The rows taken and those left on the current page are on the pages that were loaded. -/
  loaded : taken.length + cursor.pageLeft = min (cursor.stats.pages * size) rows.length
  /-- A row was taken off the last page that was loaded. -/
  begun : cursor.stats.pages * size < taken.length + size
  length_eq : cursor.pageLength =
    min (cursor.stats.pages * size) rows.length - (cursor.stats.pages * size - size)

variable {size : Nat} {rows taken : List Row} {failAt : Option Nat} {cursor : Paged}

theorem Paging.length_rows (h : Paging size rows failAt taken cursor) :
    rows.length = taken.length + cursor.rows.length := by
  rw [← h.rows_eq, List.length_append]

/-- Where a page is loaded, the ones before it were full. -/
theorem Paging.full_of_nil (h : Paging size rows failAt taken cursor)
    (hleft : cursor.pageLeft = 0) (hrows : cursor.rows ≠ []) :
    taken.length = cursor.stats.pages * size := by
  have hloaded := h.loaded
  have hlength := h.length_rows
  have hsome := List.length_pos_iff.mpr hrows
  omega

/-- Taking the next row off its page keeps the counts together. -/
theorem Paging.take (h : Paging size rows failAt taken cursor) {row : Row} {rest : List Row}
    (hrows : cursor.rows = row :: rest) :
    Paging size rows failAt (taken ++ [row]) (cursor.loadPage.1.take rest) := by
  have hne : cursor.rows ≠ [] := by simp [hrows]
  have hlength := h.length_rows
  rw [hrows, List.length_cons] at hlength
  have hloaded := h.loaded
  have hbegun := h.begun
  have hpage := h.length_eq
  by_cases hleft : cursor.pageLeft = 0
  · have hfull := h.full_of_nil hleft hne
    have hnext : (cursor.stats.pages + 1) * size = cursor.stats.pages * size + size :=
      Nat.succ_mul _ _
    have hload : cursor.loadPage.1 = { cursor with
        pageLength := min size cursor.rows.length
        pageLeft := min size cursor.rows.length
        stats := { cursor.stats with pages := cursor.stats.pages + 1 } } := by
      rw [loadPage, if_pos ⟨hleft, hne⟩, ← h.size_eq]
    rw [hload]
    constructor <;>
      simp only [Paged.take, hrows, hnext, List.append_assoc, List.singleton_append,
        List.length_append, List.length_cons, List.length_nil]
    · exact h.size_eq
    · exact h.failAt_eq
    · rw [← h.rows_eq, hrows]
    · rw [h.fetched_eq]
    · rw [h.counted_eq]
    · omega
    · omega
    · omega
  · have hload : cursor.loadPage.1 = cursor := by
      rw [loadPage, if_neg fun hnone => hleft hnone.1]
    rw [hload]
    constructor <;>
      simp only [Paged.take, List.append_assoc, List.singleton_append, List.length_append,
        List.length_cons, List.length_nil]
    · exact h.size_eq
    · exact h.failAt_eq
    · rw [← h.rows_eq, hrows]
    · rw [h.fetched_eq]
    · rw [h.counted_eq]
    · omega
    · omega
    · exact hpage

/-- A request keeps the counts together. -/
theorem Paging.request (h : Paging size rows failAt taken cursor) (request : Request τ) :
    Paging size rows failAt (taken ++ takenBy cursor request) (request.run cursor) := by
  cases request with
  | close =>
      have hclose : (Request.close : Request τ).run cursor = (cursor.close).2 := rfl
      rw [hclose, takenBy, List.append_nil, close]
      cases cursor.closeError with
      | none => exact ⟨h.1, h.2, h.3, h.4, h.5, h.6, h.7, h.8⟩
      | some text => exact ⟨h.1, h.2, h.3, h.4, h.5, h.6, h.7, h.8⟩
  | fetch slots =>
      have hfetch : (Request.fetch slots).run cursor = (cursor.fetch slots).cursor := rfl
      rw [hfetch, fetch_eq_course, takenBy]
      cases hcourse : cursor.course with
      | closed | broken | ended | missing => simpa using h
      | row row rest =>
          rw [deliver_cursor]
          exact h.take (of_course_eq_row hcourse).2.2

/-- Any requests keep the counts together. -/
theorem Paging.afterAll (h : Paging size rows failAt taken cursor)
    (requests : List (Request τ)) :
    Paging size rows failAt (taken ++ takenByAll cursor requests)
      (Cursor.afterAll cursor requests) := by
  induction requests generalizing taken cursor with
  | nil => simpa [takenByAll, Cursor.afterAll] using h
  | cons request requests ih =>
      rw [takenByAll, ← List.append_assoc]
      exact ih (h.request request)

/-- A cursor is closed once it was asked to. -/
theorem closed_afterAll (cursor : Paged) (requests : List (Request τ)) :
    (Cursor.afterAll cursor requests).closed = (cursor.closed || requests.any isClose) := by
  induction requests generalizing cursor with
  | nil => simp [Cursor.afterAll]
  | cons request requests ih =>
      have hstep : (request.run cursor).closed = (cursor.closed || isClose request) := by
        cases request with
        | close =>
            rw [Request.run, isClose, Bool.or_true]
            simp only [Cursor.close, close]
            cases cursor.closeError <;> rfl
        | fetch slots =>
            have hload : cursor.loadPage.1.closed = cursor.closed := by
              unfold loadPage
              split <;> rfl
            rw [Request.run, isClose, Bool.or_false]
            simp only [Cursor.fetch, fetch_eq_course]
            cases cursor.course with
            | closed | broken | ended | missing => rfl
            | row row rest => exact (congrArg closed (deliver_cursor _ _ _ _)).trans hload
      rw [Cursor.afterAll, List.foldl_cons, List.any_cons, ← Bool.or_assoc, ← hstep]
      exact ih _

/-! ## The account -/

/-- A fetch that loads no page: the cursor is as before, and nothing is logged. -/
def LoadsNothing (cursor : Paged) (fetched : Fetched Paged τ) : Prop :=
  fetched.cursor = cursor ∧ fetched.log = []

/-- What there is to say of a cursor that has taken some of its rows. -/
structure PageAccount (τ : Type) [ColumnFamily τ] (size : Nat) (rows : List Row)
    (failAt : Option Nat) (taken : List Row) (cursor : Paged) : Prop where
  /-- The rows taken and the rows still held are the rows, in order. -/
  rows_eq : taken ++ cursor.rows = rows
  left_le : cursor.pageLeft ≤ cursor.rows.length
  fetched_eq : cursor.stats.fetched = taken.length
  /-- The pages are the rows taken divided by the size of a page, rounded up. -/
  pages_eq : cursor.stats.pages = (taken.length + (size - 1)) / size
  /-- The page of the last row taken, or else the first one. -/
  hint_eq : cursor.hint =
    if taken = [] then min size rows.length
    else rowsOnPage size rows.length ((taken.length - 1) / size)
  /-- A row that is taken is the one that goes through the slots. -/
  delivers : ∀ {slots : List (Slot τ)} {row : Row}, takenBy cursor (.fetch slots) = [row] →
    (cursor.fetch slots).slots = (fillRow slots row).2
  not_missing : cursor.course ≠ .missing
  /-- Where a row is taken off its page, there is one to be counted off. -/
  left_pos : ∀ {row rest}, cursor.course = .row row rest → 0 < cursor.loadPage.1.pageLeft
  /-- Where the cursor was told to fail, it fails, as long as it was not closed. -/
  fails : cursor.closed = false → failAt = some taken.length → ∀ slots : List (Slot τ),
    cursor.fetch slots = failedFetch cursor slots (failureAt taken.length)
  /-- A fetch behind a close, at the end, or where the cursor was told to fail loads no
  page. -/
  loadsNothing : ∀ slots : List (Slot τ),
    cursor.closed = true ∨ failAt = some taken.length ∨ (cursor.fetch slots).outcome = .ok false →
      LoadsNothing cursor (cursor.fetch slots)

theorem Paging.pages_eq (h : Paging size rows failAt taken cursor) (hsize : 0 < size) :
    cursor.stats.pages = (taken.length + (size - 1)) / size := by
  have hloaded := h.loaded
  have hbegun := h.begun
  have hlength := h.length_rows
  have hleft : taken.length ≤ cursor.stats.pages * size := by omega
  symm
  rw [Nat.div_eq_iff hsize]
  omega

/-- The last row taken is on the last page that was loaded. -/
theorem Paging.lastPage (h : Paging size rows failAt taken cursor) (hsize : 0 < size)
    (hsome : taken ≠ []) : (taken.length - 1) / size + 1 = cursor.stats.pages := by
  have hpos := List.length_pos_iff.mpr hsome
  rw [h.pages_eq hsize, ← Nat.add_div_right _ hsize]
  congr 1
  omega

theorem Paging.hint_eq (h : Paging size rows failAt taken cursor) (hsize : 0 < size) :
    cursor.hint =
      if taken = [] then min size rows.length
      else rowsOnPage size rows.length ((taken.length - 1) / size) := by
  have hlength := h.length_rows
  have hpage := h.length_eq
  have hloaded := h.loaded
  by_cases hnone : taken = []
  · subst hnone
    have hpages : cursor.stats.pages = 0 := by
      have hround := h.pages_eq hsize
      rw [List.length_nil, Nat.zero_add, Nat.div_eq_of_lt (by omega)] at hround
      exact hround
    have hzero : cursor.pageLength = 0 := by
      rw [hpages] at hpage
      omega
    have hall : cursor.rows = rows := by simpa using h.rows_eq
    rw [if_pos rfl, hint, if_pos hzero, h.size_eq, hall]
  · have hpos := List.length_pos_iff.mpr hnone
    have hlast := h.lastPage hsize hnone
    have hbegun := h.begun
    have hstart : cursor.stats.pages * size = (taken.length - 1) / size * size + size := by
      rw [← hlast, Nat.succ_mul]
    rw [if_neg hnone, rowsOnPage_eq hsize, hint, if_neg (by omega), hpage]
    omega

theorem Paging.not_missing (h : Paging size rows failAt taken cursor) :
    cursor.course ≠ .missing := by
  intro hmissing
  have hloaded := h.loaded
  have hlength := h.length_rows
  unfold course at hmissing
  split at hmissing
  · cases hmissing
  · split at hmissing
    · cases hmissing
    · split at hmissing
      · next hrows =>
        rw [hrows, List.length_nil] at hlength
        split at hmissing
        · cases hmissing
        · omega
      · cases hmissing

/-- The counts, held together, make up the account. -/
theorem Paging.pageAccount (h : Paging size rows failAt taken cursor) (hsize : 0 < size) :
    PageAccount τ size rows failAt taken cursor where
  rows_eq := h.rows_eq
  left_le := by
    have hloaded := h.loaded
    have hlength := h.length_rows
    omega
  fetched_eq := h.counted_eq
  pages_eq := h.pages_eq hsize
  hint_eq := h.hint_eq hsize
  delivers {slots row} htaken := by
    rw [takenBy] at htaken
    rw [fetch_eq_course]
    cases hcourse : cursor.course with
    | closed | broken | ended | missing => simp [hcourse] at htaken
    | row other rest =>
        simp only [hcourse, List.cons.injEq, and_true] at htaken
        subst htaken
        exact congrArg Fetched.slots (deliver_eq _ _ _ _)
  not_missing := h.not_missing
  left_pos {row rest} hcourse := by
    have hrows := (of_course_eq_row hcourse).2.2
    unfold loadPage
    split
    · simp only [hrows, List.length_cons, h.size_eq]
      omega
    · next hload =>
      have hne : cursor.rows ≠ [] := by simp [hrows]
      exact Nat.pos_of_ne_zero fun hzero => hload ⟨hzero, hne⟩
  fails hopen hfail slots := by
    have hcourse : cursor.course = .broken := by
      simp [course, hopen, h.failAt_eq, h.fetched_eq, hfail]
    rw [fetch_eq_course, hcourse, h.fetched_eq]
    rfl
  loadsNothing slots hwhy := by
    rw [fetch_eq_course] at hwhy ⊢
    cases hcourse : cursor.course with
    | closed | broken | ended | missing => exact ⟨rfl, rfl⟩
    | row row rest =>
        obtain ⟨hopen, hfine, -⟩ := of_course_eq_row hcourse
        rw [h.failAt_eq, h.fetched_eq] at hfine
        rw [hcourse] at hwhy
        rcases hwhy with hclosed | hfail | hend
        · exact absurd hclosed (by simp [hopen])
        · exact absurd hfail hfine
        · exact absurd hend (deliver_outcome_ne_end _ _ _ _)

/-- Nothing was taken yet where a cursor begins. -/
theorem paging_begin (columns : List ColumnInfo) (rows : List Row) (failAt : Option Nat)
    (closeError : Option String) (size : Nat) :
    Paging (max size 1) rows failAt []
      (Paged.withPageSize { columns, rows, failAt, closeError } size) := by
  have hsize : 0 < max size 1 := by omega
  constructor <;> simp only [withPageSize, List.nil_append, List.length_nil, Nat.zero_mul,
    Nat.zero_min, Nat.zero_sub, Nat.zero_add]
  exact hsize

/-- **The account after any requests.** -/
theorem pageAccount_afterAll (columns : List ColumnInfo) (rows : List Row)
    (failAt : Option Nat) (closeError : Option String) (size : Nat)
    (requests : List (Request τ)) :
    let start := Paged.withPageSize { columns, rows, failAt, closeError } size
    (afterAll start requests).closed = requests.any isClose ∧
      PageAccount τ (max size 1) rows failAt (takenByAll start requests)
        (afterAll start requests) := by
  intro start
  refine ⟨closed_afterAll start requests, ?_⟩
  have hpaging := (paging_begin columns rows failAt closeError size).afterAll requests
  exact hpaging.pageAccount (by omega)

end RowBind.Paged
