import RowBind.Cursor.Any
import RowBind.Cursor.Recorded

/-!
# Cursors that hold a list of rows

A cursor holds a list of rows if its fetches write these rows through their slots, one
after the other, and find no further one behind the last.  What the cursor is otherwise,
and what it logs, is left open; a row that is refused by its slots is gone all the same.

Every cursor of the library holds the rows that it was given, as long as no failure was
put in between, and also when it is watched.  So what is said of readers over cursors that
hold rows is said of readers over these.

Main statements: `deliver_eq`, the delivery of a row is the filling of its slots;
`holds_paged`, `holds_feed` and `holds_channel`, what the cursors of the library hold; and
`holds_any` and `holds_recorded`, cursors that hold what others hold.
-/

namespace RowBind

variable {σ τ : Type} [ColumnFamily τ]

/-- A row is delivered if it is written through its slots. -/
theorem deliver_eq (cursor : σ) (slots : List (Slot τ)) (row : Row) (log : Log) :
    deliver cursor slots row log =
      { outcome := (fillRow slots row).1.map fun _ => true
        cursor
        slots := (fillRow slots row).2
        log } := by
  unfold deliver
  split
  · next filled heq => simp [heq, Except.map]
  · next failure filled heq => simp [heq, Except.map]

namespace Cursor

/-- The next fetch writes the row. -/
def Writes (τ : Type) [ColumnFamily τ] [Cursor σ] (cursor : σ) (row : Row) : Prop :=
  ∀ slots : List (Slot τ), ∃ next log, Cursor.fetch cursor slots = deliver next slots row log

/-- The next fetches write the rows, and the one behind the last row finds none. -/
def Holds (τ : Type) [ColumnFamily τ] [Cursor σ] : σ → List Row → Prop
  | cursor, [] =>
    ∀ slots : List (Slot τ), ∃ next log, Cursor.fetch cursor slots = noRow next slots log
  | cursor, row :: rows =>
    ∀ slots : List (Slot τ), ∃ next log,
      Cursor.fetch cursor slots = deliver next slots row log ∧ Holds τ next rows

/-- A cursor writes the first of the rows it holds. -/
theorem Holds.writes [Cursor σ] {cursor : σ} {row : Row} {rows : List Row}
    (h : Holds τ cursor (row :: rows)) : Writes τ cursor row := by
  intro slots
  obtain ⟨next, log, hfetch, -⟩ := h slots
  exact ⟨next, log, hfetch⟩

/-- Behind the first of the rows it holds, a cursor holds the others. -/
theorem Holds.fetch [Cursor σ] {cursor : σ} {row : Row} {rows : List Row}
    (h : Holds τ cursor (row :: rows)) (slots : List (Slot τ)) :
    Holds τ (Cursor.fetch cursor slots).cursor rows := by
  obtain ⟨next, log, hfetch, hnext⟩ := h slots
  rw [hfetch, deliver_cursor]
  exact hnext

end Cursor

open Cursor

/-- A paged cursor holds its rows, whatever the size of its pages. -/
theorem holds_paged {cursor : Paged} (hopen : cursor.closed = false)
    (hfine : cursor.failAt = none) : Holds τ cursor cursor.rows := by
  generalize hrows : cursor.rows = rows
  induction rows generalizing cursor with
  | nil =>
      intro slots
      refine ⟨cursor.loadPage.1, cursor.loadPage.2, ?_⟩
      have hloaded : cursor.loadPage.1.rows = [] := by rw [Paged.loadPage_rows, hrows]
      simp [Cursor.fetch, Paged.fetch, hopen, hfine, hloaded]
  | cons row rows ih =>
      intro slots
      have hloaded : cursor.loadPage.1.rows = row :: rows := by rw [Paged.loadPage_rows, hrows]
      have hkept : cursor.loadPage.1.closed = false ∧ cursor.loadPage.1.failAt = none := by
        unfold Paged.loadPage
        split <;> exact ⟨hopen, hfine⟩
      refine ⟨cursor.loadPage.1.take rows, cursor.loadPage.2, ?_, ?_⟩
      · simp [Cursor.fetch, Paged.fetch, hopen, hfine, hloaded]
      · exact ih hkept.1 hkept.2 rfl

/-- A feed holds the rows of its stream, if there is no failure among them. -/
theorem holds_feed {cursor : Feed} (hopen : cursor.done = false) {rows : List Row}
    (hitems : cursor.items = rows.map .ok) : Holds τ cursor rows := by
  induction rows generalizing cursor with
  | nil =>
      intro slots
      refine ⟨{ cursor with done := true }, [], ?_⟩
      have hnone : cursor.items = [] := hitems
      simp [Cursor.fetch, Feed.fetch, hopen, hnone]
  | cons row rows ih =>
      intro slots
      refine ⟨{ cursor with items := rows.map .ok }, [], ?_, ih hopen rfl⟩
      rw [List.map_cons] at hitems
      simp [Cursor.fetch, Feed.fetch, hopen, hitems]

/-- A channel whose senders are gone holds the rows in its queue, if there is no failure
among them. -/
theorem holds_channel {cursor : Channel} (hopen : cursor.done = false)
    (hsent : cursor.senders = 0) {rows : List Row} (hqueue : cursor.queue = rows.map .ok) :
    Holds τ cursor rows := by
  have hready : ∀ channel : Channel, channel.senders = 0 → channel.wouldWait = false := by
    intro channel h
    simp [Channel.wouldWait, h]
  induction rows generalizing cursor with
  | nil =>
      intro slots
      refine ⟨{ cursor with done := true },
        [⟨.debug, "The channel was closed by the producer"⟩], ?_⟩
      have hnone : cursor.queue = [] := hqueue
      simp [Cursor.fetch, Channel.fetch, hopen, hready cursor hsent, hnone]
  | cons row rows ih =>
      intro slots
      refine ⟨{ cursor with queue := rows.map .ok }, [], ?_, ih hopen hsent rfl⟩
      rw [List.map_cons] at hqueue
      simp [Cursor.fetch, Channel.fetch, hopen, hready cursor hsent, hqueue]

/-- A cursor of any kind holds what a cursor of its kind holds. -/
theorem holds_any {κ : Type} [Cursor κ] (kind : κ → AnyCursor)
    (hkind : ∀ (cursor : κ) (slots : List (Slot τ)),
      Cursor.fetch (kind cursor) slots = AnyCursor.wrap kind (Cursor.fetch cursor slots))
    {cursor : κ} {rows : List Row} (h : Holds τ cursor rows) : Holds τ (kind cursor) rows := by
  induction rows generalizing cursor with
  | nil =>
      intro slots
      obtain ⟨next, log, hfetch⟩ := h slots
      exact ⟨kind next, log, by rw [hkind, hfetch]; rfl⟩
  | cons row rows ih =>
      intro slots
      obtain ⟨next, log, hfetch, hnext⟩ := h slots
      refine ⟨kind next, log, ?_, ih hnext⟩
      rw [hkind, hfetch, deliver_eq, deliver_eq]
      rfl

/-- A cursor that is watched holds what it holds. -/
theorem holds_recorded [Cursor σ] {cursor : Recorded σ} {rows : List Row}
    (h : Holds τ cursor.cursor rows) : Holds τ cursor rows := by
  induction rows generalizing cursor with
  | nil =>
      intro slots
      obtain ⟨next, log, hfetch⟩ := h slots
      refine ⟨⟨next, cursor.events ++ [.fetched slots.length false]⟩, log, ?_⟩
      simp only [Cursor.fetch, Recorded.fetch] at hfetch ⊢
      rw [hfetch]
      rfl
  | cons row rows ih =>
      intro slots
      obtain ⟨next, log, hfetch, hnext⟩ := h slots
      refine ⟨⟨next, cursor.events ++
        [Recorded.eventOf slots.length (deliver next slots row log).outcome]⟩, log, ?_,
        ih hnext⟩
      simp only [Cursor.fetch, Recorded.fetch] at hfetch ⊢
      rw [hfetch, deliver_eq, deliver_eq]

end RowBind
