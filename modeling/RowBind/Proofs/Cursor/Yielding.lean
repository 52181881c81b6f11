import RowBind.Proofs.Cursor.EndOfResult
import RowBind.Proofs.Cursor.Holding

/-!
# Cursors and the items that are coming

The state of a cursor says which items are coming: rows, and perhaps a failure behind them.
A fetch takes the first of them.  A row is delivered through the slots, a failure is passed
on, and where nothing is coming any more there is no row, then and ever after.

What is coming is read off the state: a paged cursor goes through its rows up to the one at
which it was told to fail, a feed takes the items of its stream, a channel those in its
queue.  What a cursor of the library does beyond that, such as loading pages, makes no
difference.

Main statements: `Takes.eq_fetchItem`, what is coming decides on the outcome of a fetch and
on its slots; and `yields_paged`, `yields_feed` and `yields_channel`, a fetch of the cursors
of the library turns out as what is coming says, in every state.
-/

namespace RowBind

/-- The rows among some items. -/
def rowsOf (items : List (Outcome Row)) : List Row :=
  items.filterMap Except.toOption

@[simp]
theorem rowsOf_ok (row : Row) (items : List (Outcome Row)) :
    rowsOf (.ok row :: items) = row :: rowsOf items := rfl

theorem rowsOf_append (items others : List (Outcome Row)) :
    rowsOf (items ++ others) = rowsOf items ++ rowsOf others :=
  List.filterMap_append

@[simp]
theorem rowsOf_map_ok (rows : List Row) : rowsOf (rows.map .ok) = rows := by
  induction rows with
  | nil => rfl
  | cons row rows ih => rw [List.map_cons, rowsOf_ok, ih]

namespace Cursor

variable {σ τ : Type} [ColumnFamily τ]

/-- The ways in which a fetch turns out, by the items that are coming and by those that the
source still holds.  A source may hold items that never come. -/
inductive Takes (coming held : σ → List (Outcome Row)) (cursor : σ) (slots : List (Slot τ)) :
    Fetched σ τ → Prop
  /-- Where nothing is coming there is no row, and nothing is coming after that. -/
  | ended (hcoming : coming cursor = []) {next : σ} (hnext : coming next = [])
      (hheld : held next = held cursor) (log : Log) :
      Takes coming held cursor slots (noRow next slots log)
  /-- A row is delivered through the slots; it is gone also where they refuse it. -/
  | row {row : Row} {items : List (Outcome Row)} (hcoming : coming cursor = .ok row :: items)
      {next : σ} (hnext : coming next = items) (hheld : held cursor = .ok row :: held next)
      (log : Log) : Takes coming held cursor slots (deliver next slots row log)
  /-- A failure of the source is passed on, and nothing is coming behind it. -/
  | failed {failure : Failure} {items : List (Outcome Row)}
      (hcoming : coming cursor = .error failure :: items) {next : σ} (hnext : coming next = [])
      (hheld : held cursor = .error failure :: held next) :
      Takes coming held cursor slots (failedFetch next slots failure)
  /-- A failure of which the source knows nothing is met again and again. -/
  | stuck {failure : Failure} (hcoming : coming cursor = [.error failure]) {next : σ}
      (hnext : coming next = coming cursor) (hheld : held next = held cursor)
      (hfree : ∀ failure items, held cursor ≠ .error failure :: items) :
      Takes coming held cursor slots (failedFetch next slots failure)

/-- What a fetch of the first item comes to: the outcome, the slots, and the items behind
it. -/
def fetchItem (slots : List (Slot τ)) :
    List (Outcome Row) → Outcome Bool × List (Slot τ) × List (Outcome Row)
  | [] => (.ok false, slots, [])
  | .ok row :: items => ((fillRow slots row).1.map fun _ => true, (fillRow slots row).2, items)
  | .error failure :: _ => (.error failure, slots, [])

/-- Where every failure that is coming is an item of the source, a fetch comes to what is said
of the first item. -/
theorem Takes.eq_fetchItem {coming held : σ → List (Outcome Row)} {cursor : σ}
    {slots : List (Slot τ)} {fetched : Fetched σ τ} (h : Takes coming held cursor slots fetched)
    (hown : ∀ {failure items}, coming cursor = .error failure :: items →
      ∃ others, held cursor = .error failure :: others) :
    (fetched.outcome, fetched.slots, coming fetched.cursor) =
      fetchItem slots (coming cursor) := by
  cases h with
  | ended hcoming hnext hheld log =>
      rw [hcoming, noRow_cursor, hnext]
      rfl
  | row hcoming hnext hheld log =>
      rw [hcoming, deliver_eq, hnext]
      rfl
  | failed hcoming hnext hheld =>
      rw [hcoming, failedFetch_cursor, hnext]
      rfl
  | stuck hcoming hnext hheld hfree =>
      obtain ⟨others, howned⟩ := hown hcoming
      exact absurd howned (hfree _ others)

/-- No item of the source is coming any more. -/
structure Spent (coming held : σ → List (Outcome Row)) (cursor : σ) : Prop where
  no_row : ∀ row items, coming cursor ≠ .ok row :: items
  /-- A failure that is still coming is not of the source. -/
  no_failure : ∀ failure items, coming cursor = .error failure :: items →
    ∀ other others, held cursor ≠ .error other :: others

section

variable {coming held : σ → List (Outcome Row)} {cursor : σ} {slots : List (Slot τ)}
  {fetched : Fetched σ τ}

theorem spent_of_nil (h : coming cursor = []) : Spent coming held cursor :=
  ⟨by simp [h], by simp [h]⟩

/-- How a fetch turns out does not depend on anything else about the cursor. -/
theorem Takes.congr {other : σ} (h : Takes coming held cursor slots fetched)
    (hcoming : coming cursor = coming other) (hheld : held cursor = held other) :
    Takes coming held other slots fetched := by
  cases h with
  | ended hnone hnext hsame log =>
      exact .ended (hcoming ▸ hnone) hnext (hsame.trans hheld) log
  | row hrow hnext hsame log => exact .row (hcoming ▸ hrow) hnext (hheld ▸ hsame) log
  | failed hfailure hnext hsame => exact .failed (hcoming ▸ hfailure) hnext (hheld ▸ hsame)
  | stuck hfailure hnext hsame hfree =>
      exact .stuck (hcoming ▸ hfailure) (hnext.trans hcoming) (hsame.trans hheld) (hheld ▸ hfree)

/-- A cursor that is spent takes nothing from its source, and it stays spent. -/
theorem Takes.spent (h : Takes coming held cursor slots fetched)
    (hspent : Spent coming held cursor) :
    Spent coming held fetched.cursor ∧ held fetched.cursor = held cursor := by
  cases h with
  | ended hcoming hnext hheld log => exact ⟨spent_of_nil hnext, hheld⟩
  | row hcoming hnext hheld log => exact absurd hcoming (hspent.no_row _ _)
  | failed hcoming hnext hheld => exact absurd hheld (hspent.no_failure _ _ hcoming _ _)
  | stuck hcoming hnext hheld hfree =>
      refine ⟨⟨?_, ?_⟩, hheld⟩ <;> simp only [failedFetch_cursor, hnext, hheld]
      · exact hspent.no_row
      · exact hspent.no_failure

/-- A cursor is spent where the end of the result was reported. -/
theorem Takes.spent_of_end (h : Takes coming held cursor slots fetched)
    (hend : fetched.outcome = .ok false) : Spent coming held fetched.cursor := by
  cases h with
  | ended hcoming hnext hheld log => exact spent_of_nil hnext
  | row hcoming hnext hheld log => exact absurd hend (deliver_outcome_ne_end _ _ _ _)
  | failed => cases hend
  | stuck => cases hend

/-- A cursor is spent where a failure was coming. -/
theorem Takes.spent_of_failure (h : Takes coming held cursor slots fetched) {failure : Failure}
    {items : List (Outcome Row)} (hfailure : coming cursor = .error failure :: items) :
    Spent coming held fetched.cursor := by
  cases h with
  | ended hcoming => simp [hcoming] at hfailure
  | row hcoming => simp [hcoming] at hfailure
  | failed hcoming hnext hheld => exact spent_of_nil hnext
  | stuck hcoming hnext hheld hfree =>
      refine ⟨?_, fun _ _ _ => ?_⟩ <;> simp only [failedFetch_cursor, hnext, hheld]
      · simp [hcoming]
      · exact hfree

end

/-- Every fetch turns out as what is coming says. -/
def Yields [Cursor σ] (coming held : σ → List (Outcome Row)) : Prop :=
  ∀ {τ : Type} [ColumnFamily τ] (cursor : σ) (slots : List (Slot τ)),
    Takes coming held cursor slots (Cursor.fetch cursor slots)

end Cursor

open Cursor

variable {τ : Type} [ColumnFamily τ]

/-! ## Paged cursors -/

namespace Paged

/-- What a paged cursor fails with at a position, if it was told to. -/
def failureAt (position : Nat) : Failure :=
  .of (.told s!"Failure while fetching row {position}")

/-- The items that come of rows, the first of them at the given position. -/
def itemsFrom (failAt : Option Nat) (position : Nat) : List Row → List (Outcome Row)
  | [] => if failAt = some position then [.error (failureAt position)] else []
  | row :: rows =>
    if failAt = some position then [.error (failureAt position)]
    else .ok row :: itemsFrom failAt (position + 1) rows

/-- The items that are coming. -/
def coming (cursor : Paged) : List (Outcome Row) :=
  if cursor.closed then [] else itemsFrom cursor.failAt cursor.fetched cursor.rows

/-- The rows not delivered yet. -/
def held (cursor : Paged) : List (Outcome Row) :=
  cursor.rows.map .ok

/-- A cursor that is not told to fail goes through its rows. -/
theorem itemsFrom_none (position : Nat) (rows : List Row) :
    itemsFrom none position rows = rows.map .ok := by
  induction rows generalizing position with
  | nil => rfl
  | cons row rows ih => simp [itemsFrom, ih]

/-- Where the cursor is told to fail, that is all there is. -/
theorem itemsFrom_failAt (position : Nat) (rows : List Row) :
    itemsFrom (some position) position rows = [.error (failureAt position)] := by
  cases rows <;> simp [itemsFrom]

/-- Where no failure is coming, every row is. -/
theorem eq_of_itemsFrom {failAt : Option Nat} {position : Nat} {rows lead : List Row}
    (h : itemsFrom failAt position rows = lead.map .ok) : rows = lead := by
  induction rows generalizing position lead with
  | nil =>
      cases lead with
      | nil => rfl
      | cons row lead =>
          rw [itemsFrom] at h
          split at h <;> simp at h
  | cons row rows ih =>
      rw [itemsFrom] at h
      split at h
      · cases lead <;> simp at h
      · cases lead with
        | nil => simp at h
        | cons other lead =>
            rw [List.map_cons, List.cons.injEq, Except.ok.injEq] at h
            rw [h.1, ih h.2]

/-- What is coming behind a row comes of the rows behind it. -/
theorem coming_take {cursor : Paged} (hopen : cursor.closed = false)
    (hfine : cursor.failAt ≠ some cursor.fetched) {row : Row} {rows : List Row}
    (hrows : cursor.rows = row :: rows) :
    cursor.coming = .ok row :: (cursor.take rows).coming := by
  simp [coming, hopen, itemsFrom, hrows, hfine, take]

/-- Loading a page changes nothing about what is coming. -/
theorem loadPage_coming (cursor : Paged) : cursor.loadPage.1.coming = cursor.coming := by
  unfold loadPage
  split <;> rfl

/-- A page that is loaded makes no difference to the rows behind the first one. -/
theorem loadPage_take_coming (cursor : Paged) (rows : List Row) :
    (cursor.loadPage.1.take rows).coming = (cursor.take rows).coming := by
  unfold loadPage
  split <;> rfl

end Paged

theorem yields_paged : Yields Paged.coming Paged.held := by
  intro τ _ cursor slots
  simp only [Cursor.fetch, Paged.fetch]
  cases hopen : cursor.closed with
  | true =>
      have hnone : cursor.coming = [] := by simp [Paged.coming, hopen]
      exact .ended hnone hnone rfl []
  | false =>
      by_cases hfail : cursor.failAt = some cursor.fetched
      · have hcoming : cursor.coming = [.error (Paged.failureAt cursor.fetched)] := by
          simp [Paged.coming, hopen, hfail, Paged.itemsFrom_failAt]
        simp only [hfail, Bool.false_eq_true, if_false, if_true]
        refine .stuck hcoming rfl rfl ?_
        intro failure items
        cases hrows : cursor.rows <;> simp [Paged.held, hrows]
      · simp only [hfail, Bool.false_eq_true, if_false]
        cases hrows : cursor.rows with
        | nil =>
            have hnone : cursor.coming = [] := by
              simp [Paged.coming, hopen, hrows, Paged.itemsFrom, hfail]
            have hloaded : cursor.loadPage.1.rows = [] := by rw [Paged.loadPage_rows, hrows]
            simp only [hloaded]
            refine .ended hnone (cursor.loadPage_coming.trans hnone) ?_ _
            simp [Paged.held, hrows, hloaded]
        | cons row rows =>
            have hloaded : cursor.loadPage.1.rows = row :: rows := by
              rw [Paged.loadPage_rows, hrows]
            simp only [hloaded]
            refine .row (Paged.coming_take hopen hfail hrows)
              (cursor.loadPage_take_coming rows) ?_ _
            simp [Paged.held, hrows, Paged.take]

/-! ## Feeds -/

/-- The items that are coming. -/
def Feed.coming (cursor : Feed) : List (Outcome Row) :=
  if cursor.done then [] else cursor.items

theorem yields_feed : Yields Feed.coming Feed.items := by
  intro τ _ cursor slots
  simp only [Cursor.fetch, Feed.fetch]
  cases hopen : cursor.done with
  | true =>
      have hnone : cursor.coming = [] := by simp [Feed.coming, hopen]
      exact .ended hnone hnone rfl []
  | false =>
      have hcoming : cursor.coming = cursor.items := by simp [Feed.coming, hopen]
      simp only [Bool.false_eq_true, if_false]
      rcases hitems : cursor.items with _ | ⟨failure | row, items⟩
      · exact .ended (hcoming.trans hitems) rfl hitems.symm []
      · exact .failed (hcoming.trans hitems) rfl hitems
      · refine .row (hcoming.trans hitems) ?_ hitems []
        simp [Feed.coming]

/-! ## Channels -/

namespace Channel

/-- What stands for waiting for a sender. -/
def waiting : Failure :=
  .of (.told "The channel is empty and a sender is left")

/-- What comes behind the queue as long as nothing is sent: one would have to wait if a
sender is left. -/
def behindQueue (channel : Channel) : List (Outcome Row) :=
  if channel.closed ∨ channel.senders = 0 then [] else [.error waiting]

/-- The items that are coming as long as nothing is sent. -/
def coming (channel : Channel) : List (Outcome Row) :=
  if channel.done then [] else channel.queue ++ channel.behindQueue

/-- How a channel fetches, by the first item in its queue. -/
theorem fetch_eq (channel : Channel) (slots : List (Slot τ)) :
    channel.fetch slots =
      if channel.done then noRow channel slots []
      else
        match channel.queue with
        | .ok row :: queue => deliver { channel with queue } slots row []
        | .error failure :: queue => failedFetch { channel with queue, done := true } slots failure
        | [] =>
          if channel.closed ∨ channel.senders = 0 then
            noRow { channel with done := true } slots
              [⟨.debug, "The channel was closed by the producer"⟩]
          else failedFetch channel slots waiting := by
  unfold fetch
  cases hopen : channel.done with
  | true => rfl
  | false =>
      rcases hqueue : channel.queue with _ | ⟨failure | row, queue⟩
      · by_cases hleft : channel.closed ∨ channel.senders = 0
        · have hready : channel.wouldWait = false := by
            simp only [wouldWait, Bool.and_eq_false_iff]
            rcases hleft with hclosed | hnone
            · exact Or.inl (Or.inr (by simp [hclosed]))
            · exact Or.inr (by simp [hnone])
          simp [hready, hleft]
        · have hwaits : channel.wouldWait = true := by
            simp only [not_or] at hleft
            simp [wouldWait, hopen, hqueue, hleft]
          simp [hwaits, hleft, waiting]
      · simp [wouldWait, hqueue]
      · simp [wouldWait, hqueue]

end Channel

theorem yields_channel : Yields Channel.coming Channel.queue := by
  intro τ _ cursor slots
  rw [show Cursor.fetch cursor slots = cursor.fetch slots from rfl, Channel.fetch_eq]
  cases hopen : cursor.done with
  | true =>
      have hnone : cursor.coming = [] := by simp [Channel.coming, hopen]
      exact .ended hnone hnone rfl []
  | false =>
      have hcoming : cursor.coming = cursor.queue ++ cursor.behindQueue := by
        simp [Channel.coming, hopen]
      simp only [Bool.false_eq_true, if_false]
      rcases hqueue : cursor.queue with _ | ⟨failure | row, queue⟩
      · rw [hqueue, List.nil_append, Channel.behindQueue] at hcoming
        dsimp only
        split
        · next hleft =>
          rw [if_pos hleft] at hcoming
          exact .ended hcoming (by simp [Channel.coming]) hqueue.symm _
        · next hleft =>
          rw [if_neg hleft] at hcoming
          exact .stuck hcoming rfl rfl (by simp [hqueue])
      · refine .failed (hcoming.trans (by rw [hqueue]; rfl)) ?_ hqueue
        simp [Channel.coming]
      · refine .row (hcoming.trans (by rw [hqueue]; rfl)) ?_ hqueue []
        simp [Channel.coming, Channel.behindQueue]

end RowBind
