import RowBind.Column.Scalar.Convert
import RowBind.Proofs.Cursor.TrafficStep

/-!
# Delivery through a channel

Whatever senders and cursor do at a channel, in whatever order, the fetches report the items
that were accepted, in the order of acceptance, none of them twice and none left out; the
others wait in the queue.  A failure is the last item that is reported.  Whether the result
has ended is decided by what was seen: the cursor was closed, a failure was reported, or nobody
is left to send and every item that was accepted was reported.

That an item is reported needs fetches, of course, and a cursor that is not closed.  With as
many fetches as there are items in front of it and one for itself, every item is reported that
has no failure in front of it.  A failure behind another one never is: of the failures of
several senders the cursor passes on the first.

Three things are kept up by every step, each with the help of those before it: the order of
the items, how the marks of the channel agree with what was seen, and the answers to senders.

Main statements: `delivers_run`, all of this for every run; and
`not_reportsEachFailure_second`, the second of two failures is not reported.
-/

namespace RowBind.Traffic

variable {τ : Type} [ColumnFamily τ] {traffic next : Traffic τ}

/-- A failure was reported that had been accepted. -/
def ReportedFailure (traffic : Traffic τ) : Prop :=
  ∃ k failure, k < traffic.reports.length ∧ traffic.accepted[k]? = some (.error failure)

/-! ## The order of the items -/

/-- The fetches report the items in the order of acceptance, and the others wait. -/
structure InOrder (traffic : Traffic τ) : Prop where
  reported : ∀ {k : Nat} {report : FetchReport τ}, traffic.reports[k]? = some report →
    ∃ item, traffic.accepted[k]? = some item ∧ report = .ofItem report.slots item
  waiting : traffic.channel.queue = traffic.accepted.drop traffic.reports.length
  room : traffic.channel.queue.length ≤ traffic.channel.capacity

namespace InOrder

/-- No more is reported than was accepted. -/
theorem reports_le (h : traffic.InOrder) : traffic.reports.length ≤ traffic.accepted.length := by
  cases hlast : traffic.reports.length with
  | zero => exact Nat.zero_le _
  | succ k =>
      obtain ⟨item, hitem, -⟩ := h.reported (List.getElem?_eq_getElem (i := k) (by omega))
      exact (List.getElem?_eq_some_iff.mp hitem).1

/-- The first item of the queue is the next one to be reported. -/
theorem next_item (h : traffic.InOrder) {item : Outcome Row} {queue : List (Outcome Row)}
    (hqueue : traffic.channel.queue = item :: queue) :
    traffic.accepted[traffic.reports.length]? = some item ∧
      queue = traffic.accepted.drop (traffic.reports.length + 1) := by
  have hdrop : traffic.accepted.drop traffic.reports.length = item :: queue :=
    h.waiting.symm.trans hqueue
  refine ⟨?_, ?_⟩
  · have hhead : (traffic.accepted.drop traffic.reports.length)[0]? =
        traffic.accepted[traffic.reports.length]? := List.getElem?_drop
    rw [← hhead, hdrop]
    rfl
  · rw [← List.tail_drop, hdrop]
    rfl

/-- The order is kept where nothing is accepted and nothing is taken. -/
theorem of_same (h : traffic.InOrder) (haccepted : next.accepted = traffic.accepted)
    (hreports : next.reports = traffic.reports)
    (hqueue : next.channel.queue = traffic.channel.queue)
    (hcapacity : next.channel.capacity = traffic.channel.capacity) : next.InOrder where
  reported hreport := by
    rw [haccepted]
    exact h.reported (hreports ▸ hreport)
  waiting := by rw [hqueue, haccepted, hreports, h.waiting]
  room := by rw [hqueue, hcapacity]; exact h.room

/-- What is accepted makes no difference to the failures that were reported. -/
theorem reportedFailure_iff (h : traffic.InOrder) {items : List (Outcome Row)}
    (haccepted : next.accepted = traffic.accepted ++ items)
    (hreports : next.reports = traffic.reports) :
    next.ReportedFailure ↔ traffic.ReportedFailure := by
  unfold ReportedFailure
  rw [haccepted, hreports]
  have hsame : ∀ k, k < traffic.reports.length →
      (traffic.accepted ++ items)[k]? = traffic.accepted[k]? := fun k hk =>
    List.getElem?_append_left (Nat.lt_of_lt_of_le hk h.reports_le)
  constructor
  · rintro ⟨k, failure, hk, hitem⟩
    exact ⟨k, failure, hk, (hsame k hk).symm.trans hitem⟩
  · rintro ⟨k, failure, hk, hitem⟩
    exact ⟨k, failure, hk, (hsame k hk).trans hitem⟩

/-- With the item that is taken, a failure was reported if it was before, or if the item is
one. -/
theorem reportedFailure_took (h : traffic.InOrder) {item : Outcome Row}
    {queue : List (Outcome Row)} (hqueue : traffic.channel.queue = item :: queue)
    (haccepted : next.accepted = traffic.accepted)
    (hreports : next.reports.length = traffic.reports.length + 1) :
    next.ReportedFailure ↔ traffic.ReportedFailure ∨ item.isOk = false := by
  obtain ⟨hitem, -⟩ := h.next_item hqueue
  unfold ReportedFailure
  rw [haccepted, hreports]
  constructor
  · rintro ⟨k, failure, hk, hfailure⟩
    rcases Nat.lt_succ_iff_lt_or_eq.mp hk with hk | rfl
    · exact Or.inl ⟨k, failure, hk, hfailure⟩
    · rw [hitem] at hfailure
      cases hfailure
      exact Or.inr rfl
  · rintro (⟨k, failure, hk, hfailure⟩ | hfailed)
    · exact ⟨k, failure, Nat.lt_succ_of_lt hk, hfailure⟩
    · cases item with
      | ok row => cases hfailed
      | error failure => exact ⟨_, failure, Nat.lt_succ_self _, hitem⟩

theorem of_steps (h : traffic.InOrder) (hstep : traffic.Steps next) : next.InOrder := by
  cases hstep with
  | held => exact h
  | moved => exact h.of_same rfl rfl rfl rfl
  | refused | ended | closed => exact h.of_same (by simp) (by simp) rfl rfl
  | accepted hleft hopen hroom item =>
      refine ⟨?_, ?_, ?_⟩
      · intro k report hreport
        obtain ⟨found, hfound, heq⟩ := h.reported (by simpa using hreport)
        have hk := (List.getElem?_eq_some_iff.mp hfound).1
        refine ⟨found, ?_, heq⟩
        rw [seen_accepted, List.getElem?_append_left hk, hfound]
      · simp [h.waiting, List.drop_append_of_le_length h.reports_le]
      · simpa using Nat.succ_le_of_lt hroom
  | took hgoing hqueue slots =>
      obtain ⟨hitem, hbehind⟩ := h.next_item hqueue
      refine ⟨?_, ?_, ?_⟩
      · intro k report hreport
        simp only [seen_accepted, ChannelEvent.accepted?, Option.toList_none, List.append_nil]
        rcases Nat.lt_or_ge k traffic.reports.length with hk | hk
        · exact h.reported (by simpa [List.getElem?_append_left hk] using hreport)
        · obtain ⟨hlast, rfl⟩ : k - traffic.reports.length = 0 ∧ .ofItem slots _ = report := by
            simpa [List.getElem?_append_right hk, List.getElem?_singleton] using hreport
          obtain rfl : k = traffic.reports.length := by omega
          exact ⟨_, hitem, by rw [FetchReport.ofItem_slots]⟩
      · simpa using hbehind
      · have hroom := h.room
        rw [hqueue, List.length_cons] at hroom
        exact Nat.le_of_succ_le hroom

end InOrder

/-! ## The marks of the channel -/

/-- The cursor was closed, a failure was reported, or nobody is left to send and all that was
accepted was reported. -/
def Over (traffic : Traffic τ) : Prop :=
  .closed ∈ traffic.history ∨ traffic.ReportedFailure ∨
    traffic.channel.senders = 0 ∧ traffic.reports.length = traffic.accepted.length

/-- The marks of the channel agree with what was seen. -/
structure Marked (traffic : Traffic τ) : Prop where
  closed_iff : traffic.channel.closed = true ↔ .closed ∈ traffic.history
  done_of_closed : .closed ∈ traffic.history → traffic.channel.done = true
  done_of_failure : traffic.ReportedFailure → traffic.channel.done = true
  over_of_done : traffic.channel.done = true → traffic.Over

namespace Marked

/-- As long as the channel is not marked as done, it was not closed and no failure was
reported. -/
theorem of_going (h : traffic.Marked) (hgoing : traffic.channel.done = false) :
    .closed ∉ traffic.history ∧ ¬ traffic.ReportedFailure := by
  refine ⟨fun hclosed => ?_, fun hfailure => ?_⟩
  · have hdone := h.done_of_closed hclosed
    simp [hgoing] at hdone
  · have hdone := h.done_of_failure hfailure
    simp [hgoing] at hdone

/-- The next fetch finds the end exactly if it is over. -/
theorem atEnd_iff (h : traffic.Marked) (horder : traffic.InOrder) :
    traffic.channel.AtEnd ↔ traffic.Over := by
  have hempty : traffic.channel.queue = [] ↔
      traffic.reports.length = traffic.accepted.length := by
    have hle := horder.reports_le
    rw [horder.waiting, List.drop_eq_nil_iff]
    omega
  constructor
  · rintro (hdone | ⟨hqueue, hclosed | hnobody⟩)
    · exact h.over_of_done hdone
    · exact Or.inl (h.closed_iff.mp hclosed)
    · exact Or.inr (Or.inr ⟨hnobody, hempty.mp hqueue⟩)
  · rintro (hclosed | hfailure | ⟨hnobody, hall⟩)
    · exact Or.inl (h.done_of_closed hclosed)
    · exact Or.inl (h.done_of_failure hfailure)
    · exact Or.inr ⟨hempty.mpr hall, Or.inr hnobody⟩

/-- The marks are kept, and still agree, where a sender acts. -/
theorem of_sender (h : traffic.Marked) (hleft : traffic.channel.senders ≠ 0)
    (hclosed : next.channel.closed = traffic.channel.closed)
    (hdone : next.channel.done = traffic.channel.done)
    (hseen : .closed ∈ next.history ↔ .closed ∈ traffic.history)
    (hfailure : next.ReportedFailure ↔ traffic.ReportedFailure) : next.Marked where
  closed_iff := by rw [hclosed, hseen, h.closed_iff]
  done_of_closed hmem := hdone.trans (h.done_of_closed (hseen.mp hmem))
  done_of_failure hreported := hdone.trans (h.done_of_failure (hfailure.mp hreported))
  over_of_done hnext := by
    rcases h.over_of_done (hdone.symm.trans hnext) with hmem | hreported | hnobody
    · exact Or.inl (hseen.mpr hmem)
    · exact Or.inr (Or.inl (hfailure.mpr hreported))
    · exact absurd hnobody.1 hleft

theorem of_steps (h : traffic.Marked) (horder : traffic.InOrder) (hstep : traffic.Steps next) :
    next.Marked := by
  cases hstep with
  | held => exact h
  | moved hleft senders => exact h.of_sender hleft rfl rfl Iff.rfl Iff.rfl
  | accepted hleft | refused hleft =>
      exact h.of_sender hleft rfl rfl (by simp)
        (horder.reportedFailure_iff (seen_accepted _ _ _) (by simp))
  | took hgoing hqueue slots =>
      obtain ⟨hopen, hfine⟩ := h.of_going hgoing
      refine ⟨by simpa using h.closed_iff, fun hmem => ?_, fun hreported => ?_, fun hdone => ?_⟩
      · exact absurd (by simpa using hmem) hopen
      · have hfailed := (horder.reportedFailure_took hqueue (by simp) (by simp)).mp hreported
        simpa using hfailed.resolve_left hfine
      · refine Or.inr (Or.inl ?_)
        exact (horder.reportedFailure_took hqueue (by simp) (by simp)).mpr
          (Or.inr (by simpa using hdone))
  | ended hend =>
      refine ⟨by simpa using h.closed_iff, fun _ => rfl, fun _ => rfl, fun _ => ?_⟩
      rcases (h.atEnd_iff horder).mp hend with hmem | hreported | hnobody
      · exact Or.inl (List.mem_append_left _ hmem)
      · exact Or.inr (Or.inl
          ((horder.reportedFailure_iff (seen_accepted _ _ _) (by simp)).mpr hreported))
      · exact Or.inr (Or.inr (by simpa using hnobody))
  | closed =>
      have hmem : .closed ∈ traffic.history ++ [.closed] := List.mem_append_right _ (by simp)
      exact ⟨iff_of_true rfl hmem, fun _ => rfl, fun _ => rfl, fun _ => Or.inl hmem⟩

end Marked

/-! ## The last report and the answers -/

/-- A failure that was reported is the last item that was. -/
def FailureLast (traffic : Traffic τ) : Prop :=
  ∀ (k : Nat) (failure : Failure), traffic.accepted[k]? = some (.error failure) →
    k < traffic.reports.length → traffic.reports.length = k + 1

/-- An item behind a failure is not reported. -/
theorem FailureLast.not_reported (h : traffic.FailureLast) {j k : Nat} {failure : Failure}
    (hitem : traffic.accepted[j]? = some (.error failure)) (hbehind : j < k) :
    ¬ k < traffic.reports.length := by
  intro hk
  have hlast := h j failure hitem (Nat.lt_trans hbehind hk)
  omega

theorem FailureLast.of_steps (h : traffic.FailureLast) (horder : traffic.InOrder)
    (hmarked : traffic.Marked) (hstep : traffic.Steps next) : next.FailureLast := by
  cases hstep with
  | held => exact h
  | moved => exact h
  | refused | ended | closed =>
      intro k failure hitem hk
      simpa using h k failure (by simpa using hitem) (by simpa using hk)
  | accepted =>
      intro k failure hitem hk
      have hk : k < traffic.reports.length := by simpa using hk
      rw [seen_accepted, List.getElem?_append_left (Nat.lt_of_lt_of_le hk horder.reports_le)]
        at hitem
      simpa using h k failure hitem hk
  | took hgoing hqueue =>
      intro k failure hitem hk
      have hfine := (hmarked.of_going hgoing).2
      have hitem : traffic.accepted[k]? = some (.error failure) := by simpa using hitem
      have hk : k < traffic.reports.length + 1 := by simpa using hk
      have hlast : ¬ k < traffic.reports.length := fun hearlier =>
        hfine ⟨k, failure, hearlier, hitem⟩
      have heq : k = traffic.reports.length := by omega
      simp [heq]

/-- Items are refused, and nothing is delivered, exactly behind the closing of the cursor. -/
structure Answered (traffic : Traffic τ) : Prop where
  accepts : .closed ∉ traffic.history → ∀ {item answer}, .sent item answer ∈ traffic.history →
    answer = .ok ()
  quiet : traffic.history.Pairwise fun earlier later => earlier = .closed → later.IsQuiet

namespace Answered

/-- One more event, which is quiet if the cursor was closed, and no refusal if it was not. -/
theorem seen (h : traffic.Answered) (channel : Channel) {event : ChannelEvent τ}
    (haccepts : .closed ∉ traffic.history → ∀ {item answer}, event = .sent item answer →
      answer = .ok ())
    (hquiet : .closed ∈ traffic.history → event.IsQuiet) :
    (traffic.seen channel event).Answered where
  accepts hopen item answer hmem := by
    have hopen : .closed ∉ traffic.history := fun hclosed =>
      hopen (List.mem_append_left _ hclosed)
    rcases List.mem_append.mp hmem with hmem | hmem
    · exact h.accepts hopen hmem
    · exact haccepts hopen (List.mem_singleton.mp hmem).symm
  quiet := by
    refine List.pairwise_append.mpr ⟨h.quiet, List.pairwise_singleton _ _, ?_⟩
    rintro _ hearlier later hlater rfl
    obtain rfl := List.mem_singleton.mp hlater
    exact hquiet hearlier

theorem of_steps (h : traffic.Answered) (hmarked : traffic.Marked)
    (hstep : traffic.Steps next) : next.Answered := by
  cases hstep with
  | held => exact h
  | moved => exact ⟨h.accepts, h.quiet⟩
  | accepted hleft hopen hroom item =>
      have hnot : .closed ∉ traffic.history := fun hmem => by
        simp [hmarked.closed_iff.mpr hmem] at hopen
      refine h.seen _ (fun _ _ _ heq => ?_) fun hmem => absurd hmem hnot
      cases heq
      rfl
  | refused hleft hclosed item =>
      exact h.seen _ (fun hopen => absurd (hmarked.closed_iff.mp hclosed) hopen) fun _ => rfl
  | took hgoing hqueue slots =>
      refine h.seen _ (fun _ _ _ heq => ?_) fun hmem => absurd hmem (hmarked.of_going hgoing).1
      cases heq
  | ended hend slots =>
      refine h.seen _ (fun _ _ _ heq => ?_) fun _ => rfl
      cases heq
  | closed =>
      refine h.seen _ (fun _ _ _ heq => ?_) fun _ => trivial
      cases heq

end Answered

/-! ## All of it -/

/-- What every step keeps up. -/
structure Consistent (traffic : Traffic τ) : Prop where
  order : traffic.InOrder
  marked : traffic.Marked
  failureLast : traffic.FailureLast
  answered : traffic.Answered

namespace Consistent

theorem of_steps (h : traffic.Consistent) (hstep : traffic.Steps next) : next.Consistent where
  order := h.order.of_steps hstep
  marked := h.marked.of_steps h.order hstep
  failureLast := FailureLast.of_steps h.failureLast h.order h.marked hstep
  answered := h.answered.of_steps h.marked hstep

/-- Nothing was seen at a new channel, and it bears no mark. -/
theorem ofSize (columns : List ColumnInfo) (size : Nat) :
    (Traffic.ofSize columns size : Traffic τ).Consistent where
  order := ⟨fun hreport => (by cases hreport), rfl, Nat.zero_le _⟩
  marked := ⟨by simp [Traffic.ofSize, Channel.ofSize], by simp [Traffic.ofSize],
    fun ⟨k, _, hk, _⟩ => absurd hk (Nat.not_lt_zero k), fun hdone => (by cases hdone)⟩
  failureLast := fun _ _ hitem => (by cases hitem)
  answered := ⟨fun _ _ _ hmem => (by cases hmem), List.Pairwise.nil⟩

theorem run (h : traffic.Consistent) (acts : List (ChannelAct τ)) :
    (traffic.run acts).Consistent :=
  run_induction Consistent.of_steps h acts

/-! ### Progress -/

/-- A fetch reports the first item of the queue, as long as the channel is not marked as
done. -/
theorem reports_fetch (hgoing : traffic.channel.done = false) {item : Outcome Row}
    {queue : List (Outcome Row)} (hqueue : traffic.channel.queue = item :: queue)
    (slots : List (Slot τ)) :
    (traffic.step (.fetch slots)).reports = traffic.reports ++ [.ofItem slots item] := by
  have hready : (ChannelAct.fetch slots).isHeld traffic.channel = false := by
    simp [ChannelAct.isHeld, Channel.wouldWait, hqueue]
  obtain ⟨-, hreport⟩ := Channel.fetch_item hgoing hqueue slots
  simp [step, hready, hreport]

/-- The next item is reported by a fetch if no failure was reported and the cursor was not
closed. -/
theorem reports_fetch_of_accepted (h : traffic.Consistent)
    (hnext : traffic.reports.length < traffic.accepted.length)
    (hopen : .closed ∉ traffic.history) (hfine : ¬ traffic.ReportedFailure)
    (slots : List (Slot τ)) :
    (traffic.step (.fetch slots)).reports.length = traffic.reports.length + 1 := by
  have hgoing : traffic.channel.done = false := by
    refine Bool.eq_false_iff.mpr fun hdone => ?_
    rcases h.marked.over_of_done hdone with hclosed | hfailure | ⟨-, hall⟩
    · exact hopen hclosed
    · exact hfine hfailure
    · omega
  cases hqueue : traffic.channel.queue with
  | nil =>
      have hnone := List.drop_eq_nil_iff.mp (h.order.waiting.symm.trans hqueue)
      omega
  | cons item queue =>
      rw [reports_fetch hgoing hqueue, List.length_append, List.length_singleton]

/-- An act brings the report of an item closer by the fetch that it is, or the item was
reported already. -/
theorem reports_step (h : traffic.Consistent) (act : ChannelAct τ) {k : Nat}
    (haccepted : k < traffic.accepted.length)
    (hrows : ∀ j < k, ∀ failure, traffic.accepted[j]? ≠ some (.error failure))
    (hopen : .closed ∉ traffic.history) :
    k < (traffic.step act).reports.length ∨
      traffic.reports.length + (if act.isFetch then 1 else 0) ≤
        (traffic.step act).reports.length := by
  have hkept : traffic.reports.length ≤ (traffic.step act).reports.length :=
    ((traffic.steps_step act).history_grows.filterMap _).length_le
  rcases Nat.lt_or_ge k traffic.reports.length with hk | hk
  · exact Or.inl (Nat.lt_of_lt_of_le hk hkept)
  · cases act with
    | sender act => exact Or.inr hkept
    | close => exact Or.inr hkept
    | fetch slots =>
        have hfine : ¬ traffic.ReportedFailure := fun ⟨j, failure, hj, hitem⟩ =>
          hrows j (Nat.lt_of_lt_of_le hj hk) failure hitem
        have hreports := h.reports_fetch_of_accepted (Nat.lt_of_le_of_lt hk haccepted) hopen
          hfine slots
        exact Or.inr (Nat.le_of_eq hreports.symm)

/-- **Every item is reported that has no failure in front of it**, once the cursor was asked
often enough without being closed, whatever else happens meanwhile. -/
theorem served (h : traffic.Consistent) (acts : List (ChannelAct τ)) {k : Nat}
    (haccepted : k < traffic.accepted.length)
    (hrows : ∀ j < k, ∀ failure, traffic.accepted[j]? ≠ some (.error failure))
    (hopen : .closed ∉ (traffic.run acts).history)
    (hasked : k < traffic.reports.length + acts.countP ChannelAct.isFetch) :
    k < (traffic.run acts).reports.length := by
  induction acts generalizing traffic with
  | nil => exact hasked
  | cons act acts ih =>
      obtain ⟨later, hlater⟩ : traffic.accepted <+: (traffic.step act).accepted :=
        (traffic.steps_step act).history_grows.filterMap _
      have hopenNow : .closed ∉ traffic.history := fun hmem =>
        hopen ((traffic.run_history_grows (act :: acts)).subset hmem)
      have hprogress := h.reports_step act haccepted hrows hopenNow
      refine ih (h.of_steps (traffic.steps_step act)) ?_ (fun j hj failure => ?_) hopen ?_
      · rw [← hlater, List.length_append]
        omega
      · rw [← hlater, List.getElem?_append_left (by omega)]
        exact hrows j hj failure
      · rw [List.countP_cons] at hasked
        omega

end Consistent

/-! ### What is to be expected -/

/-- What is to be expected of a channel at any moment. -/
structure Delivers (traffic : Traffic τ) : Prop extends InOrder traffic, Answered traffic where
  /-- Nothing is delivered behind a failure. -/
  failureLast : traffic.FailureLast
  /-- A fetch reports the end exactly if it is over. -/
  end_iff : ∀ slots : List (Slot τ),
    (traffic.channel.fetch slots).outcome = .ok false ↔ traffic.Over
  /-- An item with no failure in front of it is reported by enough fetches, whatever else
  happens, unless the cursor is closed. -/
  served : ∀ (acts : List (ChannelAct τ)) {k : Nat}, k < traffic.accepted.length →
    (∀ j < k, ∀ failure, traffic.accepted[j]? ≠ some (.error failure)) →
      .closed ∉ (traffic.run acts).history →
        k < traffic.reports.length + acts.countP ChannelAct.isFetch →
          k < (traffic.run acts).reports.length

theorem Consistent.delivers (h : traffic.Consistent) : traffic.Delivers where
  toInOrder := h.order
  toAnswered := h.answered
  failureLast := h.failureLast
  end_iff slots :=
    (traffic.channel.fetch_outcome_eq_end_iff slots).trans (h.marked.atEnd_iff h.order)
  served := h.served

/-- **What senders and cursor may expect of a channel**, whatever they do and in whatever
order. -/
theorem delivers_run (columns : List ColumnInfo) (size : Nat) (acts : List (ChannelAct τ)) :
    ((Traffic.ofSize columns size).run acts).Delivers :=
  ((Consistent.ofSize columns size).run acts).delivers

/-- When it is over, every failure that was accepted was reported. -/
def ReportsEachFailure (traffic : Traffic τ) : Prop :=
  traffic.Over → ∀ (k : Nat) (failure : Failure),
    traffic.accepted[k]? = some (.error failure) → k < traffic.reports.length

/-- Two senders that fail, and a cursor that fetches twice. -/
def twoFailures : Traffic Scalar :=
  (Traffic.ofSize [{ name := "a" }] 4).run
    [.sender .add, .sender (.fail (.of (.told "first"))),
      .sender (.fail (.of (.told "second"))), .fetch [.field (.column (.ofType .bool))],
      .fetch [.field (.column (.ofType .bool))]]

/-- The failure of the second sender is accepted and never reported. -/
theorem not_reportsEachFailure_second : ¬ twoFailures.ReportsEachFailure := by
  intro h
  have hlast : twoFailures.FailureLast := ((Consistent.ofSize _ _).run _).failureLast
  have hfirst : twoFailures.accepted[0]? = some (.error (.of (.told "first"))) := rfl
  have hsecond : twoFailures.accepted[1]? = some (.error (.of (.told "second"))) := rfl
  have hover : twoFailures.Over := Or.inr (Or.inl ⟨0, _, by decide, hfirst⟩)
  exact hlast.not_reported hfirst Nat.zero_lt_one (h hover 1 _ hsecond)

end RowBind.Traffic
