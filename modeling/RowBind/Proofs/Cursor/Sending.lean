import RowBind.Cursor.Attended
import RowBind.Proofs.Cursor.Yielding

/-!
# What comes through a channel

The items that come through a channel are those in its queue and behind them those that its
senders are going to send, in the order of sending, as long as a sender is left.  When they
are sent makes no difference: a batch that is done early only moves items into the queue.

Main statements: `perform_pending`, an act of a sender changes nothing about the items that
are pending; and `yields_attended`, a channel whose senders are at work yields them in their
order.
-/

namespace RowBind

open Cursor

variable {τ : Type} [ColumnFamily τ]

/-! ## Senders -/

namespace SenderAct

/-- The items that an act sends. -/
def items : SenderAct → List (Outcome Row)
  | send row => [.ok row]
  | fail failure => [.error failure]
  | add | drop => []

/-- The number of senders after an act of one of them. -/
def sendersAfter (senders : Nat) : SenderAct → Nat
  | send _ => senders
  | add => senders + 1
  | fail _ | drop => senders - 1

end SenderAct

/-- The items that so many senders send, as long as one is left. -/
def sentBy (senders : Nat) : List SenderAct → List (Outcome Row)
  | [] => []
  | act :: acts => if senders = 0 then [] else act.items ++ sentBy (act.sendersAfter senders) acts

/-- The number of senders left in the end. -/
def sendersLeft (senders : Nat) : List SenderAct → Nat
  | [] => senders
  | act :: acts => if senders = 0 then 0 else sendersLeft (act.sendersAfter senders) acts

@[simp]
theorem sentBy_zero (acts : List SenderAct) : sentBy 0 acts = [] := by
  cases acts <;> rfl

@[simp]
theorem sendersLeft_zero (acts : List SenderAct) : sendersLeft 0 acts = 0 := by
  cases acts <;> rfl

/-! ## Channels with acts ahead -/

namespace Channel

/-- The items in the queue and those that are going to be sent. -/
def pending (channel : Channel) (acts : List SenderAct) : List (Outcome Row) :=
  channel.queue ++ if channel.closed then [] else sentBy channel.senders acts

/-- What comes behind them: one would have to wait if a sender is left. -/
def behindPending (channel : Channel) (acts : List SenderAct) : List (Outcome Row) :=
  if channel.closed ∨ sendersLeft channel.senders acts = 0 then [] else [.error waiting]

/-- Nothing is pending in an empty channel that nobody can send to. -/
theorem pending_of_finished {channel : Channel} (hqueue : channel.queue = [])
    (hfinished : channel.closed ∨ channel.senders = 0) (acts : List SenderAct) :
    channel.pending acts = [] ∧ channel.behindPending acts = [] := by
  rcases hfinished with hclosed | hnone
  · simp [pending, behindPending, hqueue, hclosed]
  · simp [pending, behindPending, hqueue, hnone]

/-- Nothing is pending in an empty channel whose senders do nothing more, but one would have
to wait for them. -/
theorem pending_of_waiting {channel : Channel} (hqueue : channel.queue = [])
    (hleft : ¬ (channel.closed ∨ channel.senders = 0)) :
    channel.pending [] = [] ∧ channel.behindPending [] = [.error waiting] := by
  simp [pending, behindPending, hqueue, sentBy, sendersLeft, hleft]

/-- What a sender does to an open channel. -/
theorem perform_of_open {channel : Channel} (hopen : channel.closed = false)
    (hleft : channel.senders ≠ 0) (act : SenderAct) :
    act.perform channel = { channel with
      queue := channel.queue ++ act.items
      senders := act.sendersAfter channel.senders } := by
  cases act <;> simp [SenderAct.perform, hleft, SenderAct.items, SenderAct.sendersAfter, send,
    sendFailure, push, hopen, addSender, dropSender]

/-- Nothing is put into a closed channel. -/
theorem perform_queue_of_closed {channel : Channel} (hclosed : channel.closed = true)
    (act : SenderAct) : (act.perform channel).queue = channel.queue := by
  unfold SenderAct.perform
  split
  · rfl
  · cases act <;> simp [send, sendFailure, push, hclosed, addSender, dropSender]

/-- An act that is done changes nothing about what is pending. -/
theorem perform_pending (channel : Channel) (act : SenderAct) (acts : List SenderAct) :
    (act.perform channel).pending acts = channel.pending (act :: acts) ∧
      (act.perform channel).behindPending acts = channel.behindPending (act :: acts) := by
  cases hopen : channel.closed with
  | true =>
      have hkept : (act.perform channel).closed = true :=
        (Attended.perform_kept channel act).2.1.trans hopen
      have hqueue := perform_queue_of_closed hopen act
      simp [pending, behindPending, hkept, hopen, hqueue]
  | false =>
      by_cases hleft : channel.senders = 0
      · have hsame : act.perform channel = channel := if_pos hleft
        simp [hsame, pending, behindPending, hleft]
      · rw [perform_of_open hopen hleft]
        simp [pending, behindPending, hopen, sentBy, sendersLeft, hleft]

end Channel

/-! ## Attended channels -/

namespace Attended

/-- The items not taken yet. -/
def held (cursor : Attended) : List (Outcome Row) :=
  cursor.channel.pending cursor.batches.flatten

/-- The items that are coming. -/
def coming (cursor : Attended) : List (Outcome Row) :=
  if cursor.channel.done then []
  else cursor.held ++ cursor.channel.behindPending cursor.batches.flatten

/-- The rows that are coming are those not taken yet. -/
theorem rowsOf_coming {cursor : Attended} (hopen : cursor.channel.done = false) :
    rowsOf cursor.coming = rowsOf cursor.held := by
  have hnone : rowsOf (cursor.channel.behindPending cursor.batches.flatten) = [] := by
    unfold Channel.behindPending
    split <;> rfl
  rw [coming, hopen, if_neg Bool.false_ne_true, rowsOf_append, hnone, List.append_nil]

/-- The senders that go on change nothing about the items. -/
theorem attended_same (cursor : Attended) :
    cursor.attended.held = cursor.held ∧ cursor.attended.coming = cursor.coming := by
  have hpending := attend_induction
    (P := fun channel acts =>
      channel.pending acts = cursor.channel.pending cursor.batches.flatten ∧
        channel.behindPending acts = cursor.channel.behindPending cursor.batches.flatten)
    (fun channel act acts h => ⟨(channel.perform_pending act acts).1.trans h.1,
      (channel.perform_pending act acts).2.trans h.2⟩) cursor.channel cursor.batches ⟨rfl, rfl⟩
  have hdone := (attend_kept cursor.channel cursor.batches).2.2
  simp only [attended, held, coming, hpending.1, hpending.2, hdone]
  exact ⟨trivial, trivial⟩

end Attended

/-- A row is delivered by an attended channel as by the channel. -/
theorem deliver_attended (next : Channel) (batches : List (List SenderAct))
    (slots : List (Slot τ)) (row : Row) (log : Log) :
    ({ outcome := (deliver next slots row log).outcome
       cursor := { channel := (deliver next slots row log).cursor, batches }
       slots := (deliver next slots row log).slots
       log := (deliver next slots row log).log } : Fetched Attended τ) =
      deliver { channel := next, batches } slots row log := by
  rw [deliver_eq, deliver_eq]

namespace Attended

/-- Nothing is coming from an empty channel that nobody can send to. -/
theorem coming_of_finished {ready : Attended} (hqueue : ready.channel.queue = [])
    (hfinished : ready.channel.closed ∨ ready.channel.senders = 0) : ready.coming = [] := by
  obtain ⟨hheld, hbehind⟩ :=
    Channel.pending_of_finished hqueue hfinished ready.batches.flatten
  unfold coming
  split
  · rfl
  · rw [held, hheld, hbehind]
    rfl

/-- An empty channel whose senders do nothing more holds no item, and only the wait for them is
coming. -/
theorem coming_of_waiting {ready : Attended} (hdone : ¬ ready.channel.done = true)
    (hqueue : ready.channel.queue = [])
    (hleft : ¬ (ready.channel.closed ∨ ready.channel.senders = 0)) (hidle : ready.batches = []) :
    ready.held = [] ∧ ready.coming = [.error Channel.waiting] := by
  obtain ⟨hheld, hbehind⟩ := Channel.pending_of_waiting hqueue hleft
  have hnone : ready.held = [] := by
    rw [held, hidle]
    exact hheld
  refine ⟨hnone, ?_⟩
  rw [coming, if_neg hdone, hnone, hidle]
  exact hbehind

end Attended

/-- A channel at which nobody acts before the next fetch yields what is pending. -/
theorem takes_ready {ready : Attended}
    (hready : ready.channel.wouldWait = true → ready.batches = []) (slots : List (Slot τ)) :
    Takes Attended.coming Attended.held ready slots
      { outcome := (ready.channel.fetch slots).outcome
        cursor := { ready with channel := (ready.channel.fetch slots).cursor }
        slots := (ready.channel.fetch slots).slots
        log := (ready.channel.fetch slots).log } := by
  rw [Channel.fetch_eq]
  by_cases hdone : ready.channel.done = true
  · have hnone : ready.coming = [] := if_pos hdone
    rw [if_pos hdone]
    exact .ended hnone hnone rfl []
  · have hcoming : ready.coming =
        ready.held ++ ready.channel.behindPending ready.batches.flatten := if_neg hdone
    rw [if_neg hdone]
    rcases hqueue : ready.channel.queue with _ | ⟨failure | row, queue⟩
    · by_cases hleft : ready.channel.closed ∨ ready.channel.senders = 0
      · have hsame : Attended.held { ready with
            channel := { ready.channel with queue := [], done := true } } = ready.held := by
          rw [Attended.held, Attended.held, Channel.pending, Channel.pending, hqueue]
        simp only [hleft, if_true]
        exact .ended (Attended.coming_of_finished hqueue hleft) (by rfl) hsame _
      · have hwaits : ready.channel.wouldWait = true := by
          rw [not_or] at hleft
          simp [Channel.wouldWait, hdone, hqueue, hleft]
        obtain ⟨hnone, hwaiting⟩ :=
          Attended.coming_of_waiting hdone hqueue hleft (hready hwaits)
        simp only [hleft, if_false]
        exact .stuck hwaiting rfl rfl (by simp [hnone])
    · have hheld : ready.held = .error failure ::
          Attended.held { ready with channel := { ready.channel with queue, done := true } } := by
        simp [Attended.held, Channel.pending, hqueue]
      exact .failed (hcoming.trans (congrArg (· ++ _) hheld)) (if_pos rfl) hheld
    · have hheld : ready.held = .ok row ::
          Attended.held { ready with channel := { ready.channel with queue } } := by
        simp [Attended.held, Channel.pending, hqueue]
      simp only [deliver_attended]
      refine .row (hcoming.trans (congrArg (· ++ _) hheld)) ?_ hheld []
      simp [Attended.coming, hdone, Channel.behindPending]

/-- A channel whose senders are at work yields what they send. -/
theorem yields_attended : Yields Attended.coming Attended.held := by
  intro τ _ cursor slots
  obtain ⟨hheld, hcoming⟩ := cursor.attended_same
  exact (takes_ready Attended.attend_waits slots).congr hcoming hheld

end RowBind
