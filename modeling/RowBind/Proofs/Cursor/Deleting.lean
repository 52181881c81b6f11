import RowBind.Cursor.Attended
import RowBind.Cursor.Pages
import RowBind.Proofs.Cursor.Yielding
import RowBind.Proofs.Route.Deleting

/-!
# Results without some of their columns

A result loses columns by losing their values, row by row.  If every row has a value for each
column, its cursor goes on as before: through the slots that are left it delivers the same rows,
ends in the same place, and fails where it failed.

Main statements: `fetchedAlike_deliver`, a row is delivered alike; and `deletes_paged`,
`deletes_feed`, `deletes_channel` and `deletes_attended`, results of the library without some
of their columns.
-/

namespace RowBind

variable {σ ρ τ : Type} [ColumnFamily τ]

/-! ## Cursors that lose columns -/

/-- A fetch through the slots that are left turns out as one through all of them. -/
structure FetchedAlike (mask : List Bool) (narrow : σ → ρ) (slots : List (Slot τ))
    (wide : Fetched σ τ) (other : Fetched ρ τ) : Prop where
  outcome : other.outcome.toOption = wide.outcome.toOption
  slots_eq : other.slots = keepWhere mask wide.slots
  length_eq : wide.slots.length = slots.length
  cursor_eq : other.cursor = narrow wide.cursor

/-- A cursor without the columns that a mask deletes goes on like the whole one, as long as the
rows of that one are aligned with its columns. -/
structure Deletes [Cursor σ] [Cursor ρ] (mask : List Bool) (narrow : σ → ρ)
    (aligned : σ → Prop) : Prop where
  columns : ∀ cursor, Cursor.columns (narrow cursor) = keepWhere mask (Cursor.columns cursor)
  fetch : ∀ {cursor : σ}, aligned cursor → ∀ {τ : Type} [ColumnFamily τ] {slots : List (Slot τ)},
    Covers mask slots →
      FetchedAlike mask narrow slots (Cursor.fetch cursor slots)
          (Cursor.fetch (narrow cursor) (keepWhere mask slots)) ∧
        aligned (Cursor.fetch cursor slots).cursor
  close : ∀ cursor, (Cursor.close (narrow cursor)).1 = (Cursor.close cursor).1

section

variable {mask : List Bool} {narrow : σ → ρ} {slots : List (Slot τ)}

theorem fetchedAlike_noRow (cursor : σ) (log log' : Log) :
    FetchedAlike mask narrow slots (noRow cursor slots log)
      (noRow (narrow cursor) (keepWhere mask slots) log') :=
  ⟨rfl, rfl, rfl, rfl⟩

theorem fetchedAlike_failed (cursor : σ) (failure : Failure) :
    FetchedAlike mask narrow slots (failedFetch cursor slots failure)
      (failedFetch (narrow cursor) (keepWhere mask slots) failure) :=
  ⟨rfl, rfl, rfl, rfl⟩

/-- A row is delivered alike if it has a value for each column. -/
theorem fetchedAlike_deliver (hcovers : Covers mask slots) (cursor : σ) {row : Row}
    (hlength : row.length = mask.length) (log log' : Log) :
    FetchedAlike mask narrow slots (deliver cursor slots row log)
      (deliver (narrow cursor) (keepWhere mask slots) (keepWhere mask row) log') := by
  obtain ⟨houtcome, hslots⟩ := fillFrom_keepWhere hcovers slots.length 0
    (keepWhere mask slots).length 0 hlength
  rw [deliver_eq, deliver_eq]
  refine ⟨?_, hslots, fillFrom_length _ _ _ _, rfl⟩
  simp only [fillRow]
  cases hwide : (fillFrom slots.length 0 slots row).1 <;>
    cases hother : (fillFrom (keepWhere mask slots).length 0 (keepWhere mask slots)
      (keepWhere mask row)).1 <;> simp_all [Except.map, Except.toOption]

end

/-! ## The cursors of the library -/

/-- Every row has a value for each column. -/
def Aligned (mask : List Bool) (rows : List Row) : Prop :=
  ∀ row ∈ rows, row.length = mask.length

/-- An item without the values of columns that are deleted. -/
def narrowItem (mask : List Bool) (item : Outcome Row) : Outcome Row :=
  item.map (keepWhere mask)

namespace Paged

/-- The cursor without the columns that a mask deletes. -/
def narrow (mask : List Bool) (cursor : Paged) : Paged :=
  { cursor with
    columns := keepWhere mask cursor.columns
    rows := cursor.rows.map (keepWhere mask) }

theorem loadPage_narrow (mask : List Bool) (cursor : Paged) :
    (cursor.narrow mask).loadPage = (cursor.loadPage.1.narrow mask, cursor.loadPage.2) := by
  by_cases hload : cursor.pageLeft = 0 ∧ cursor.rows ≠ []
  · have hother : (cursor.narrow mask).pageLeft = 0 ∧ (cursor.narrow mask).rows ≠ [] := by
      simpa [narrow] using hload
    rw [loadPage, if_pos hother, loadPage, if_pos hload]
    simp [narrow]
  · have hother : ¬ ((cursor.narrow mask).pageLeft = 0 ∧ (cursor.narrow mask).rows ≠ []) := by
      simpa [narrow] using hload
    rw [loadPage, if_neg hother, loadPage, if_neg hload]

/-- The next row is taken where it was taken before. -/
theorem course_narrow (mask : List Bool) (cursor : Paged) :
    (cursor.narrow mask).course =
      match cursor.course with
      | .row row rest => .row (keepWhere mask row) (rest.map (keepWhere mask))
      | other => other := by
  have hclosed : (cursor.narrow mask).closed = cursor.closed := rfl
  have hfail : (cursor.narrow mask).failAt = cursor.failAt := rfl
  have hfetched : (cursor.narrow mask).fetched = cursor.fetched := rfl
  have hleft : (cursor.narrow mask).pageLeft = cursor.pageLeft := rfl
  have hrows : (cursor.narrow mask).rows = cursor.rows.map (keepWhere mask) := rfl
  simp only [course, hclosed, hfail, hfetched, hleft, hrows]
  cases cursor.closed with
  | true => rfl
  | false =>
      by_cases hbroken : cursor.failAt = some cursor.fetched
      · simp [hbroken]
      · by_cases hnone : cursor.pageLeft = 0
        · cases cursor.rows <;> simp [hbroken, hnone]
        · cases cursor.rows <;> simp [hbroken, hnone]

end Paged

theorem deletes_paged (mask : List Bool) :
    Deletes mask (Paged.narrow mask) fun cursor => Aligned mask cursor.rows where
  columns _ := rfl
  fetch {cursor} haligned τ _ slots hcovers := by
    simp only [Cursor.fetch, Paged.fetch_eq_course, Paged.course_narrow, Paged.loadPage_narrow]
    cases hcourse : cursor.course with
    | closed | ended | missing => exact ⟨fetchedAlike_noRow cursor [] [], haligned⟩
    | broken => exact ⟨fetchedAlike_failed cursor _, haligned⟩
    | row row rest =>
        have hrows := (Paged.of_course_eq_row hcourse).2.2
        rw [hrows] at haligned
        refine ⟨?_, ?_⟩
        · exact fetchedAlike_deliver hcovers
            (cursor.loadPage.1.take rest) (haligned row List.mem_cons_self) _ _
        · rw [deliver_cursor]
          exact fun other hmem => haligned other (List.mem_cons_of_mem row hmem)
  close cursor := by
    simp only [Cursor.close, Paged.close, Paged.narrow]
    cases cursor.closeError <;> rfl

/-- The feed without the columns that a mask deletes. -/
def Feed.narrow (mask : List Bool) (cursor : Feed) : Feed :=
  { cursor with
    columns := keepWhere mask cursor.columns
    items := cursor.items.map (narrowItem mask) }

theorem deletes_feed (mask : List Bool) :
    Deletes mask (Feed.narrow mask) fun cursor => Aligned mask (rowsOf cursor.items) where
  columns _ := rfl
  fetch {cursor} haligned τ _ slots hcovers := by
    obtain ⟨columns, items, hint, done⟩ := cursor
    cases done with
    | true => exact ⟨fetchedAlike_noRow _ [] [], haligned⟩
    | false =>
        rcases items with _ | ⟨failure | row, items⟩
        · exact ⟨fetchedAlike_noRow _ [] [], haligned⟩
        · exact ⟨fetchedAlike_failed _ failure, haligned⟩
        · have hrow : row.length = mask.length := haligned row List.mem_cons_self
          refine ⟨fetchedAlike_deliver hcovers _ hrow [] [], ?_⟩
          rw [show Cursor.fetch _ slots = deliver { columns, items, hint } slots row [] from rfl,
            deliver_cursor]
          exact fun other hmem => haligned other (List.mem_cons_of_mem row hmem)
  close _ := rfl

/-- The channel without the columns that a mask deletes. -/
def Channel.narrow (mask : List Bool) (channel : Channel) : Channel :=
  { channel with
    columns := keepWhere mask channel.columns
    queue := channel.queue.map (narrowItem mask) }

theorem deletes_channel (mask : List Bool) :
    Deletes mask (Channel.narrow mask) fun cursor => Aligned mask (rowsOf cursor.queue) where
  columns _ := rfl
  fetch {cursor} haligned τ _ slots hcovers := by
    have hwide : Cursor.fetch cursor slots = cursor.fetch slots := rfl
    have hother : Cursor.fetch (cursor.narrow mask) (keepWhere mask slots) =
        (cursor.narrow mask).fetch (keepWhere mask slots) := rfl
    rw [hwide, hother, Channel.fetch_eq, Channel.fetch_eq]
    obtain ⟨columns, capacity, queue, senders, closed, done⟩ := cursor
    cases done with
    | true => exact ⟨fetchedAlike_noRow _ [] [], haligned⟩
    | false =>
        rcases queue with _ | ⟨failure | row, queue⟩
        · by_cases hleft : closed = true ∨ senders = 0
          · simp only [Channel.narrow, hleft, List.map_nil, if_true]
            exact ⟨fetchedAlike_noRow _ _ _, haligned⟩
          · simp only [Channel.narrow, hleft, List.map_nil, if_false]
            exact ⟨fetchedAlike_failed _ _, haligned⟩
        · exact ⟨fetchedAlike_failed _ failure, haligned⟩
        · have hrow : row.length = mask.length := haligned row List.mem_cons_self
          refine ⟨fetchedAlike_deliver hcovers _ hrow [] [], ?_⟩
          simp only [Bool.false_eq_true, if_false, deliver_cursor]
          exact fun other hmem => haligned other (List.mem_cons_of_mem row hmem)
  close _ := rfl

/-! ## Channels whose senders are at work -/

/-- The act of a sender who does not send values of columns that are deleted. -/
def narrowAct (mask : List Bool) : SenderAct → SenderAct
  | .send row => .send (keepWhere mask row)
  | act => act

theorem perform_narrow (mask : List Bool) (channel : Channel) (act : SenderAct) :
    (narrowAct mask act).perform (channel.narrow mask) = (act.perform channel).narrow mask := by
  have hsenders : (channel.narrow mask).senders = channel.senders := rfl
  have hpush : ∀ item refusal, (channel.narrow mask).push (narrowItem mask item) refusal =
      ((channel.push item refusal).1, (channel.push item refusal).2.narrow mask) := by
    intro item refusal
    cases hclosed : channel.closed <;> simp [Channel.push, Channel.narrow, hclosed]
  unfold SenderAct.perform
  rw [hsenders]
  split
  · rfl
  · cases act with
    | send row => exact congrArg Prod.snd (hpush (.ok row) _)
    | fail failure =>
        exact congrArg (fun pushed => Channel.dropSender pushed.2) (hpush (.error failure) _)
    | add | drop => rfl

namespace Attended

/-- The channel without the columns that a mask deletes, and its senders without their values. -/
def narrow (mask : List Bool) (cursor : Attended) : Attended where
  channel := cursor.channel.narrow mask
  batches := cursor.batches.map (·.map (narrowAct mask))

theorem attend_narrow (mask : List Bool) (channel : Channel) (batches : List (List SenderAct)) :
    attend (channel.narrow mask) (batches.map (·.map (narrowAct mask))) =
      ((attend channel batches).1.narrow mask,
        (attend channel batches).2.map (·.map (narrowAct mask))) := by
  have hbatch : ∀ (batch : List SenderAct) (channel : Channel),
      (batch.map (narrowAct mask)).foldl SenderAct.perform (channel.narrow mask) =
        (batch.foldl SenderAct.perform channel).narrow mask := by
    intro batch
    induction batch with
    | nil => exact fun _ => rfl
    | cons act batch ih =>
        intro channel
        rw [List.map_cons, List.foldl_cons, List.foldl_cons, perform_narrow, ih]
  have hwaits : ∀ channel : Channel, (channel.narrow mask).wouldWait = channel.wouldWait := by
    intro channel
    simp [Channel.wouldWait, Channel.narrow]
  induction batches generalizing channel with
  | nil => rfl
  | cons batch batches ih =>
      simp only [List.map_cons, attend, hbatch, hwaits]
      split
      · exact ih _
      · rfl

/-- Every row has a value for each column, those that will be sent included. -/
def AlignedWith (mask : List Bool) (channel : Channel) (acts : List SenderAct) : Prop :=
  Aligned mask (rowsOf channel.queue) ∧ ∀ row, .send row ∈ acts → row.length = mask.length

/-- Sending a row keeps the rows aligned. -/
theorem AlignedWith.perform {mask : List Bool} {channel : Channel} {act : SenderAct}
    {acts : List SenderAct} (h : AlignedWith mask channel (act :: acts)) :
    AlignedWith mask (act.perform channel) acts := by
  refine ⟨?_, fun row hmem => h.2 row (List.mem_cons_of_mem act hmem)⟩
  have hpush : ∀ item refusal, Aligned mask (rowsOf [item]) →
      Aligned mask (rowsOf (channel.push item refusal).2.queue) := by
    intro item refusal hitem
    unfold Channel.push
    split
    · exact h.1
    · intro row hmem
      rw [rowsOf_append, List.mem_append] at hmem
      exact hmem.elim (h.1 row) (hitem row)
  unfold SenderAct.perform
  split
  · exact h.1
  · cases act with
    | send row =>
        refine hpush (.ok row) _ fun other hmem => ?_
        obtain rfl := List.mem_singleton.mp hmem
        exact h.2 other List.mem_cons_self
    | fail failure => exact hpush (.error failure) _ nofun
    | add | drop => exact h.1

end Attended

theorem deletes_attended (mask : List Bool) :
    Deletes mask (Attended.narrow mask) fun cursor =>
      Attended.AlignedWith mask cursor.channel cursor.batches.flatten where
  columns _ := rfl
  fetch {cursor} haligned τ _ slots hcovers := by
    have hready := Attended.attend_induction (P := Attended.AlignedWith mask)
      (fun _ _ _ h => h.perform) cursor.channel cursor.batches haligned
    obtain ⟨halike, hrows⟩ := (deletes_channel mask).fetch hready.1 hcovers
    have hnarrowed := Attended.attend_narrow mask cursor.channel cursor.batches
    simp only [Cursor.fetch, Attended.fetch, Attended.attended, Attended.narrow, hnarrowed]
    exact ⟨⟨halike.outcome, halike.slots_eq, halike.length_eq,
      congrArg (fun channel => Attended.mk channel _) halike.cursor_eq⟩, hrows, hready.2⟩
  close _ := rfl

end RowBind
