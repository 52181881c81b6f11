import RowBind.Cursor.Traffic
import RowBind.Proofs.Cursor.Yielding

/-!
# One act at a channel

An act at a channel can turn out in seven ways: it cannot be taken, a sender is added or
dropped, an item is accepted or refused, a fetch takes an item or finds the end, or the cursor
is closed.  Everything that holds along the traffic through a channel is derived from this case
analysis, and no proof about runs looks into the acts themselves.

Main statements: `steps_step`, the case analysis; and `run_induction`, what every step keeps
up holds after every run.
-/

namespace RowBind

open Cursor

variable {τ : Type} [ColumnFamily τ]

/-! ## Fetches -/

namespace Channel

/-- A fetch finds the end: it was reported before, or nothing is left and nobody can send. -/
def AtEnd (channel : Channel) : Prop :=
  channel.done = true ∨ channel.queue = [] ∧ (channel.closed = true ∨ channel.senders = 0)

/-- Where a fetch does not wait, it finds the end or an item. -/
theorem atEnd_or_item {channel : Channel} (hready : ¬ channel.wouldWait = true) :
    channel.AtEnd ∨
      channel.done = false ∧ ∃ item queue, channel.queue = item :: queue := by
  cases hdone : channel.done with
  | true => exact .inl (.inl hdone)
  | false =>
      cases hqueue : channel.queue with
      | cons item queue => exact .inr ⟨rfl, item, queue, rfl⟩
      | nil =>
          have hnobody : channel.closed = true ∨ channel.senders = 0 := by
            cases hclosed : channel.closed with
            | true => exact .inl rfl
            | false => exact .inr (by simpa [wouldWait, hdone, hqueue, hclosed] using hready)
          exact .inl (.inr ⟨hqueue, hnobody⟩)

theorem fetch_at_end {channel : Channel} (hend : channel.AtEnd) (slots : List (Slot τ)) :
    (channel.fetch slots).cursor = { channel with done := true } ∧
      channel.report slots = .ofEnd slots := by
  cases hdone : channel.done with
  | true =>
      have hsame : { channel with done := true } = channel := by rw [← hdone]
      rw [report, fetch_done hdone, hsame]
      exact ⟨rfl, rfl⟩
  | false =>
      obtain ⟨hqueue, hnobody⟩ := hend.resolve_left (by simp [hdone])
      have hfetch : channel.fetch slots = noRow { channel with done := true } slots
          [⟨.debug, "The channel was closed by the producer"⟩] := by
        rw [fetch_eq, hdone, hqueue]
        simp [hnobody]
      rw [report, hfetch]
      exact ⟨rfl, rfl⟩

theorem fetch_item {channel : Channel} (hgoing : channel.done = false) {item : Outcome Row}
    {queue : List (Outcome Row)} (hqueue : channel.queue = item :: queue)
    (slots : List (Slot τ)) :
    (channel.fetch slots).cursor = { channel with queue, done := !item.isOk } ∧
      channel.report slots = .ofItem slots item := by
  rw [report, fetch_eq, hgoing, if_neg Bool.false_ne_true, hqueue]
  cases item with
  | error failure => exact ⟨rfl, rfl⟩
  | ok row =>
      dsimp only
      rw [deliver_eq]
      exact ⟨rfl, rfl⟩

/-- The outcome of a fetch tells whether it found the end. -/
theorem fetch_outcome_eq_end_iff (channel : Channel) (slots : List (Slot τ)) :
    (channel.fetch slots).outcome = .ok false ↔ channel.AtEnd := by
  constructor
  · intro houtcome
    by_cases hwait : channel.wouldWait = true
    · have hgoing : channel.done = false := by
        simp only [wouldWait, Bool.and_eq_true] at hwait
        simpa using hwait.1.1.1
      simp [fetch, hgoing, hwait] at houtcome
    · rcases atEnd_or_item hwait with hend | ⟨hgoing, item, queue, hqueue⟩
      · exact hend
      · have hend : (channel.report slots).isEnd = true := FetchReport.isEnd_iff.mpr houtcome
        rw [(fetch_item hgoing hqueue slots).2, FetchReport.isEnd_ofItem] at hend
        cases hend
  · intro hend
    exact congrArg FetchReport.outcome (fetch_at_end hend slots).2

end Channel

/-! ## Acts -/

namespace Traffic

/-- The ways in which an act can turn out. -/
inductive Steps (traffic : Traffic τ) : Traffic τ → Prop
  /-- The act cannot be taken. -/
  | held : Steps traffic traffic
  /-- A sender is added or dropped. -/
  | moved (hleft : traffic.channel.senders ≠ 0) (senders : Nat) :
      Steps traffic { traffic with channel := { traffic.channel with senders } }
  /-- An item is accepted; there was room for it. -/
  | accepted (hleft : traffic.channel.senders ≠ 0) (hopen : traffic.channel.closed = false)
      (hroom : traffic.channel.queue.length < traffic.channel.capacity) (item : Outcome Row)
      (senders : Nat) :
      Steps traffic (traffic.seen
        { traffic.channel with queue := traffic.channel.queue ++ [item], senders }
        (.sent item (.ok ())))
  /-- An item is refused, since the cursor was closed. -/
  | refused (hleft : traffic.channel.senders ≠ 0) (hclosed : traffic.channel.closed = true)
      (item : Outcome Row) (senders : Nat) :
      Steps traffic (traffic.seen { traffic.channel with senders }
        (.sent item (.error (Channel.refusal item))))
  /-- A fetch takes the first item of the queue; a failure is the last one that it takes. -/
  | took (hgoing : traffic.channel.done = false) {item : Outcome Row} {queue : List (Outcome Row)}
      (hqueue : traffic.channel.queue = item :: queue) (slots : List (Slot τ)) :
      Steps traffic (traffic.seen { traffic.channel with queue, done := !item.isOk }
        (.fetched (.ofItem slots item)))
  /-- A fetch finds the end. -/
  | ended (hend : traffic.channel.AtEnd) (slots : List (Slot τ)) :
      Steps traffic (traffic.seen { traffic.channel with done := true } (.fetched (.ofEnd slots)))
  /-- The cursor is closed. -/
  | closed :
      Steps traffic (traffic.seen { traffic.channel with closed := true, done := true } .closed)

/-- An item that is put into the channel where there is room is accepted or refused. -/
theorem steps_push {traffic : Traffic τ} (hleft : traffic.channel.senders ≠ 0)
    {item : Outcome Row}
    (hroom : traffic.channel.closed = false →
      traffic.channel.queue.length < traffic.channel.capacity) {refusal : String}
    (hrefusal : Channel.refusal item = .of (.told refusal)) (senders : Nat) :
    traffic.Steps (traffic.seen { (traffic.channel.push item refusal).2 with senders }
      (.sent item (traffic.channel.push item refusal).1)) := by
  cases hopen : traffic.channel.closed with
  | false =>
      rw [Channel.push, if_neg (by simp [hopen])]
      exact .accepted hleft hopen (hroom hopen) item senders
  | true =>
      rw [Channel.push, if_pos hopen, failFor, ← hrefusal]
      exact .refused hleft hopen item senders

/-- What an act of a sender comes to that is not held. -/
theorem steps_sender {traffic : Traffic τ} {act : SenderAct}
    (hready : ¬ (ChannelAct.sender act : ChannelAct τ).isHeld traffic.channel = true) :
    traffic.Steps
      { channel := act.perform traffic.channel
        history := traffic.history ++ act.events traffic.channel } := by
  simp only [ChannelAct.isHeld, Bool.or_eq_true, not_or, beq_iff_eq] at hready
  obtain ⟨hleft, hnotFull⟩ := hready
  have hroom : act.sends = true → traffic.channel.closed = false →
      traffic.channel.queue.length < traffic.channel.capacity := by
    intro hsends hopen
    simpa [hsends, hopen, Channel.isFull] using hnotFull
  unfold SenderAct.perform
  rw [if_neg hleft]
  cases act with
  | send row =>
      have hrefusal : Channel.refusal (.ok row) =
        .of (.told "The cursor was closed, the row cannot be sent") := rfl
      exact steps_push hleft (hroom rfl) hrefusal (traffic.channel.send row).2.senders
  | fail failure =>
      have hrefusal : Channel.refusal (.error failure) =
        .of (.told "The cursor was closed, the error cannot be sent") := rfl
      exact steps_push hleft (hroom rfl) hrefusal (traffic.channel.sendFailure failure).2.senders
  | add =>
      simpa [SenderAct.events, Channel.addSender] using
        Steps.moved hleft (traffic.channel.senders + 1)
  | drop =>
      simpa [SenderAct.events, Channel.dropSender] using
        Steps.moved hleft (traffic.channel.senders - 1)

/-- A fetch that does not wait takes the first item, or finds the end. -/
theorem steps_fetch {traffic : Traffic τ} (hready : ¬ traffic.channel.wouldWait = true)
    (slots : List (Slot τ)) :
    traffic.Steps (traffic.seen (traffic.channel.fetch slots).cursor
      (.fetched (traffic.channel.report slots))) := by
  rcases traffic.channel.atEnd_or_item hready with hend | ⟨hgoing, item, queue, hqueue⟩
  · obtain ⟨hcursor, hreport⟩ := Channel.fetch_at_end hend slots
    rw [hcursor, hreport]
    exact .ended hend slots
  · obtain ⟨hcursor, hreport⟩ := Channel.fetch_item hgoing hqueue slots
    rw [hcursor, hreport]
    exact .took hgoing hqueue slots

/-- **The ways in which an act can turn out** are the steps. -/
theorem steps_step (traffic : Traffic τ) (act : ChannelAct τ) : traffic.Steps (traffic.step act) := by
  unfold step
  split
  · exact .held
  · next hready =>
    cases act with
    | sender act => exact steps_sender hready
    | fetch slots => exact steps_fetch hready slots
    | close => exact .closed

/-- What was seen stays. -/
theorem Steps.history_grows {traffic next : Traffic τ} (hstep : traffic.Steps next) :
    traffic.history <+: next.history := by
  cases hstep with
  | held | moved => exact List.prefix_refl _
  | accepted | refused | took | ended | closed => exact List.prefix_append _ _

theorem run_history_grows (traffic : Traffic τ) (acts : List (ChannelAct τ)) :
    traffic.history <+: (traffic.run acts).history := by
  induction acts generalizing traffic with
  | nil => exact List.prefix_refl _
  | cons act acts ih => exact (traffic.steps_step act).history_grows.trans (ih _)

/-- What every step keeps up holds after every run. -/
theorem run_induction {P : Traffic τ → Prop}
    (hstep : ∀ {traffic next : Traffic τ}, P traffic → traffic.Steps next → P next)
    {traffic : Traffic τ} (h : P traffic) (acts : List (ChannelAct τ)) : P (traffic.run acts) := by
  induction acts generalizing traffic with
  | nil => exact h
  | cons act acts ih => exact ih (hstep h (traffic.steps_step act))

end Traffic

end RowBind
