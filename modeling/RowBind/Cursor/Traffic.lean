import RowBind.Cursor.Attended

/-!
# The traffic through a channel

Senders and cursor act on a channel in any order: they send rows and failures, are added and
dropped, fetch and close.  What is seen of it is a history: the items that were put into the
channel, or refused, with the answers to their senders, what fetches came to, and closing.

An act that cannot be taken is left out: there is no sender for it, the queue has no room
for what is sent, or a fetch would wait.  So every order in which senders and cursor can take
turns is a list of acts, and every list of acts is such an order.

Main statements: `isEnd_ofItem`, a fetch that takes an item is no end of the result; and
`seen_accepted` and `seen_reports`, what one more event adds to the items that were accepted
and to the fetches that came to something.
-/

namespace RowBind

/-- What can happen at a channel. -/
inductive ChannelAct (τ : Type) [ColumnFamily τ] where
  | sender (act : SenderAct)
  | fetch (slots : List (Slot τ))
  | close

/-- A fetch as it is seen: the slots that it was given, what came of it, and the slots as
they were left. -/
structure FetchReport (τ : Type) [ColumnFamily τ] where
  slots : List (Slot τ)
  outcome : Outcome Bool
  filled : List (Slot τ)

/-- What is seen at a channel. -/
inductive ChannelEvent (τ : Type) [ColumnFamily τ] where
  /-- An item was sent, and this is what the sender was told. -/
  | sent (item : Outcome Row) (answer : Outcome Unit)
  | fetched (report : FetchReport τ)
  | closed

namespace SenderAct

/-- Something is put into the channel. -/
def sends : SenderAct → Bool
  | send _ | fail _ => true
  | add | drop => false

/-- What is seen of the act of a sender. -/
def events {τ : Type} [ColumnFamily τ] (channel : Channel) : SenderAct → List (ChannelEvent τ)
  | send row => [.sent (.ok row) (channel.send row).1]
  | fail failure => [.sent (.error failure) (channel.sendFailure failure).1]
  | add | drop => []

end SenderAct

variable {τ : Type} [ColumnFamily τ]

/-- The act cannot be taken as things are. -/
def ChannelAct.isHeld (channel : Channel) : ChannelAct τ → Bool
  | sender act => channel.senders == 0 || (act.sends && channel.isFull && !channel.closed)
  | fetch _ => channel.wouldWait
  | close => false

def ChannelAct.isFetch : ChannelAct τ → Bool
  | fetch _ => true
  | sender _ | close => false

namespace FetchReport

/-- The fetch found the end of the result. -/
def isEnd (report : FetchReport τ) : Bool :=
  match report.outcome with
  | .ok false => true
  | _ => false

/-- What a fetch that takes an item comes to: a row is put into the slots, and it is a failure
if they refuse it; a failure is passed on. -/
def ofItem (slots : List (Slot τ)) : Outcome Row → FetchReport τ
  | .ok row => ⟨slots, (fillRow slots row).1.map fun _ => true, (fillRow slots row).2⟩
  | .error failure => ⟨slots, .error failure, slots⟩

/-- What a fetch at the end comes to. -/
def ofEnd (slots : List (Slot τ)) : FetchReport τ :=
  ⟨slots, .ok false, slots⟩

theorem isEnd_iff {report : FetchReport τ} : report.isEnd = true ↔ report.outcome = .ok false := by
  unfold isEnd
  split <;> simp_all

@[simp]
theorem ofItem_slots (slots : List (Slot τ)) (item : Outcome Row) :
    (ofItem slots item).slots = slots := by
  cases item <;> rfl

@[simp]
theorem isEnd_ofEnd (slots : List (Slot τ)) : (ofEnd slots).isEnd = true := rfl

@[simp]
theorem isEnd_ofItem (slots : List (Slot τ)) (item : Outcome Row) :
    (ofItem slots item).isEnd = false := by
  cases item with
  | error failure => rfl
  | ok row =>
      simp only [ofItem, isEnd]
      cases (fillRow slots row).1 <;> rfl

end FetchReport

/-- What a fetch from the channel comes to. -/
def Channel.report (channel : Channel) (slots : List (Slot τ)) : FetchReport τ :=
  ⟨slots, (channel.fetch slots).outcome, (channel.fetch slots).slots⟩

/-- What a sender is told whose item is refused. -/
def Channel.refusal : Outcome Row → Failure
  | .ok _ => .of (.told "The cursor was closed, the row cannot be sent")
  | .error _ => .of (.told "The cursor was closed, the error cannot be sent")

namespace ChannelEvent

/-- The item that was accepted. -/
@[simp]
def accepted? : ChannelEvent τ → Option (Outcome Row)
  | sent item (.ok ()) => some item
  | sent _ (.error _) | fetched _ | closed => none

/-- The fetch that came to something. -/
@[simp]
def report? : ChannelEvent τ → Option (FetchReport τ)
  | fetched report => if report.isEnd then none else some report
  | sent _ _ | closed => none

/-- Nothing is accepted and nothing is delivered. -/
def IsQuiet : ChannelEvent τ → Prop
  | sent item answer => answer = .error (Channel.refusal item)
  | fetched report => report = .ofEnd report.slots
  | closed => True

end ChannelEvent

/-- A channel and what was seen at it so far. -/
structure Traffic (τ : Type) [ColumnFamily τ] where
  channel : Channel
  history : List (ChannelEvent τ) := []

namespace Traffic

/-- A new channel, at which nothing was seen. -/
def ofSize (columns : List ColumnInfo) (size : Nat) : Traffic τ :=
  { channel := .ofSize columns size }

/-- The channel as it is then, with one more event. -/
def seen (traffic : Traffic τ) (channel : Channel) (event : ChannelEvent τ) : Traffic τ :=
  { channel, history := traffic.history ++ [event] }

/-- The channel after an act, with what was seen of it. -/
def step (traffic : Traffic τ) (act : ChannelAct τ) : Traffic τ :=
  if act.isHeld traffic.channel then traffic
  else
    match act with
    | .sender act =>
      { channel := act.perform traffic.channel
        history := traffic.history ++ act.events traffic.channel }
    | .fetch slots =>
      traffic.seen (traffic.channel.fetch slots).cursor (.fetched (traffic.channel.report slots))
    | .close => traffic.seen traffic.channel.close.2 .closed

/-- The channel after some acts. -/
def run (traffic : Traffic τ) (acts : List (ChannelAct τ)) : Traffic τ :=
  acts.foldl step traffic

/-- The items that were accepted, in the order of acceptance. -/
def accepted (traffic : Traffic τ) : List (Outcome Row) :=
  traffic.history.filterMap (·.accepted?)

/-- The fetches that came to something, in their order. -/
def reports (traffic : Traffic τ) : List (FetchReport τ) :=
  traffic.history.filterMap (·.report?)

@[simp]
theorem seen_channel (traffic : Traffic τ) (channel : Channel) (event : ChannelEvent τ) :
    (traffic.seen channel event).channel = channel := rfl

@[simp]
theorem seen_history (traffic : Traffic τ) (channel : Channel) (event : ChannelEvent τ) :
    (traffic.seen channel event).history = traffic.history ++ [event] := rfl

@[simp]
theorem seen_accepted (traffic : Traffic τ) (channel : Channel) (event : ChannelEvent τ) :
    (traffic.seen channel event).accepted = traffic.accepted ++ event.accepted?.toList := by
  simp only [accepted, seen_history, List.filterMap_append, List.append_cancel_left_eq]
  rw [List.filterMap_cons]
  cases event.accepted? <;> rfl

@[simp]
theorem seen_reports (traffic : Traffic τ) (channel : Channel) (event : ChannelEvent τ) :
    (traffic.seen channel event).reports = traffic.reports ++ event.report?.toList := by
  simp only [reports, seen_history, List.filterMap_append, List.append_cancel_left_eq]
  rw [List.filterMap_cons]
  cases event.report? <;> rfl

end Traffic

end RowBind
