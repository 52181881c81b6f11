import RowBind.Cursor.Channel

/-!
# Channels whose senders are at work

Senders go on while a cursor takes rows from their channel, and when they act is up to them.
An attended channel comes with what its senders are going to do, in the order in which it
happens, cut into batches: one for each fetch, done before the cursor looks at the queue.
A fetch that would have to wait lets the senders go on, batch by batch.

Any way in which senders and cursor take turns is given by some batches.  An act stands for
one that is completed, so none of them has to wait for room in the queue.  Where the batches
are used up and a sender is left, a fetch would wait for good, which the channel reports as
it does.

Main statements: `attend_waits`, a fetch waits only if the senders have nothing more to do;
and `attend_induction`, what every act of a sender keeps up holds when the next item is looked
for.
-/

namespace RowBind

/-- What a sender can do. -/
inductive SenderAct where
  | send (row : Row)
  /-- Sends a failure, which uses up the sender. -/
  | fail (failure : Failure)
  | add
  | drop

namespace SenderAct

/-- The channel after an act, if a sender is left to act. -/
def perform (channel : Channel) (act : SenderAct) : Channel :=
  if channel.senders = 0 then channel
  else
    match act with
    | send row => (channel.send row).2
    | fail failure => (channel.sendFailure failure).2
    | add => channel.addSender
    | drop => channel.dropSender

end SenderAct

/-- A channel with what its senders are going to do. -/
structure Attended where
  channel : Channel
  /-- The acts of the senders that are left. -/
  batches : List (List SenderAct) := []

namespace Attended

/-- Lets the senders go on, at least for a batch, and as long as a fetch would wait. -/
def attend (channel : Channel) : List (List SenderAct) → Channel × List (List SenderAct)
  | [] => (channel, [])
  | batch :: batches =>
    let channel := batch.foldl SenderAct.perform channel
    if channel.wouldWait then attend channel batches else (channel, batches)

/-- The channel when it is looked at for the next item. -/
def attended (cursor : Attended) : Attended :=
  let (channel, batches) := attend cursor.channel cursor.batches
  { channel, batches }

/-- Lets the senders go on and takes the next item. -/
def fetch {τ : Type} [ColumnFamily τ] (cursor : Attended) (slots : List (Slot τ)) :
    Fetched Attended τ :=
  let ready := cursor.attended
  let fetched := ready.channel.fetch slots
  { outcome := fetched.outcome
    cursor := { ready with channel := fetched.cursor }
    slots := fetched.slots
    log := fetched.log }

/-- Ends the delivery. -/
def close (cursor : Attended) : Outcome Unit × Attended :=
  let (outcome, channel) := cursor.channel.close
  (outcome, { cursor with channel })

/-- A fetch waits only if the senders have nothing more to do. -/
theorem attend_waits {channel : Channel} {batches : List (List SenderAct)}
    (h : (attend channel batches).1.wouldWait = true) : (attend channel batches).2 = [] := by
  induction batches generalizing channel with
  | nil => rfl
  | cons batch batches ih =>
      rw [attend] at h ⊢
      split at h
      · next hwaits =>
        rw [if_pos hwaits]
        exact ih h
      · next hready => exact absurd h hready

/-- **Induction over acts.**  What every act keeps up, of the channel and of the acts behind
it, holds when the channel is looked at. -/
theorem attend_induction {P : Channel → List SenderAct → Prop}
    (hact : ∀ channel act acts, P channel (act :: acts) → P (act.perform channel) acts)
    (channel : Channel) (batches : List (List SenderAct)) (h : P channel batches.flatten) :
    P (attend channel batches).1 (attend channel batches).2.flatten := by
  have hbatch : ∀ (batch acts : List SenderAct) (channel : Channel), P channel (batch ++ acts) →
      P (batch.foldl SenderAct.perform channel) acts := by
    intro batch acts
    induction batch with
    | nil => exact fun _ h => h
    | cons act batch ih => exact fun channel h => ih _ (hact channel act _ h)
  induction batches generalizing channel with
  | nil => exact h
  | cons batch batches ih =>
      have hdone := hbatch batch batches.flatten channel (by simpa using h)
      rw [attend]
      split
      · exact ih _ hdone
      · exact hdone

/-- No sender changes the columns, nor what the cursor has done. -/
theorem perform_kept (channel : Channel) (act : SenderAct) :
    (act.perform channel).columns = channel.columns ∧
      (act.perform channel).closed = channel.closed ∧
      (act.perform channel).done = channel.done := by
  have hpush : ∀ item refusal, (channel.push item refusal).2.columns = channel.columns ∧
      (channel.push item refusal).2.closed = channel.closed ∧
      (channel.push item refusal).2.done = channel.done := by
    intro item refusal
    unfold Channel.push
    split <;> exact ⟨rfl, rfl, rfl⟩
  unfold SenderAct.perform
  split
  · exact ⟨rfl, rfl, rfl⟩
  · cases act with
    | send row => exact hpush _ _
    | fail failure => exact hpush _ _
    | add => exact ⟨rfl, rfl, rfl⟩
    | drop => exact ⟨rfl, rfl, rfl⟩

/-- So it is however long the senders go on. -/
theorem attend_kept (channel : Channel) (batches : List (List SenderAct)) :
    (attend channel batches).1.columns = channel.columns ∧
      (attend channel batches).1.closed = channel.closed ∧
      (attend channel batches).1.done = channel.done := by
  refine attend_induction (P := fun after _ => after.columns = channel.columns ∧
    after.closed = channel.closed ∧ after.done = channel.done) ?_ channel batches
    ⟨rfl, rfl, rfl⟩
  intro after act _ h
  obtain ⟨hcolumns, hclosed, hdone⟩ := perform_kept after act
  exact ⟨hcolumns.trans h.1, hclosed.trans h.2.1, hdone.trans h.2.2⟩

instance : Cursor Attended where
  columns cursor := cursor.channel.columns
  hint cursor := Cursor.hint cursor.channel
  fetch := fetch
  close := close
  release cursor := cursor
  columns_fetch cursor slots :=
    (Cursor.columns_fetch cursor.attended.channel slots).trans
      (attend_kept cursor.channel cursor.batches).1

end Attended

end RowBind
