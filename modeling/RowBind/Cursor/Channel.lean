import RowBind.Cursor

/-!
# Cursors fed through a channel

A channel is a queue of bounded size between senders and a cursor.  Senders put rows and
failures at its end, the cursor takes them from its front; the result ends when every
sender is gone and the queue is empty, with the first failure that is read, or when the
cursor is closed, after which nothing more can be sent.

Sending into a full queue and fetching from an empty one, as long as a sender is left,
would wait for the other side.  `isFull` and `wouldWait` say when; a step that would have
to wait is not taken.

Main statement: `fetch_done`, an ended cursor takes nothing more from the queue.
-/

namespace RowBind

/-- A channel with its cursor. -/
structure Channel where
  columns : List ColumnInfo
  /-- How many items the queue can hold. -/
  capacity : Nat
  /-- The items sent and not taken yet. -/
  queue : List (Outcome Row) := []
  /-- The senders left. -/
  senders : Nat := 1
  /-- The cursor accepts nothing more. -/
  closed : Bool := false
  /-- The cursor has reported the end or a failure, or was closed. -/
  done : Bool := false

namespace Channel

/-- A channel of the given size, at least one, with one sender. -/
def ofSize (columns : List ColumnInfo) (size : Nat) : Channel :=
  { columns, capacity := max size 1 }

/-- The queue has no room. -/
def isFull (channel : Channel) : Bool :=
  channel.capacity ≤ channel.queue.length

/-- A fetch would have to wait for a sender. -/
def wouldWait (channel : Channel) : Bool :=
  !channel.done && channel.queue.isEmpty && !channel.closed && channel.senders != 0

/-- Puts an item at the end of the queue. -/
def push (channel : Channel) (item : Outcome Row) (refusal : String) : Outcome Unit × Channel :=
  if channel.closed then (failFor (.told refusal), channel)
  else (.ok (), { channel with queue := channel.queue ++ [item] })

/-- Sends a row. -/
def send (channel : Channel) (row : Row) : Outcome Unit × Channel :=
  channel.push (.ok row) "The cursor was closed, the row cannot be sent"

/-- Adds a sender. -/
def addSender (channel : Channel) : Channel :=
  { channel with senders := channel.senders + 1 }

/-- Drops a sender. -/
def dropSender (channel : Channel) : Channel :=
  { channel with senders := channel.senders - 1 }

/-- Sends a failure, which uses up the sender. -/
def sendFailure (channel : Channel) (failure : Failure) : Outcome Unit × Channel :=
  let (outcome, channel) :=
    channel.push (.error failure) "The cursor was closed, the error cannot be sent"
  (outcome, channel.dropSender)

/-- Drops the cursor: the queue is emptied, and nothing more can be sent. -/
def dropCursor (channel : Channel) : Channel :=
  { channel with queue := [], closed := true, done := true }

/-- Takes the next item.  Where it would have to wait, that is a failure. -/
def fetch {τ : Type} [ColumnFamily τ] (channel : Channel) (slots : List (Slot τ)) :
    Fetched Channel τ :=
  if channel.done then noRow channel slots []
  else if channel.wouldWait then
    failedFetch channel slots (.of (.told "The channel is empty and a sender is left"))
  else
    match channel.queue with
    | [] =>
      noRow { channel with done := true } slots
        [⟨.debug, "The channel was closed by the producer"⟩]
    | .error failure :: queue => failedFetch { channel with queue, done := true } slots failure
    | .ok row :: queue => deliver { channel with queue } slots row []

/-- Ends the delivery and refuses further items. -/
def close (channel : Channel) : Outcome Unit × Channel :=
  (.ok (), { channel with closed := true, done := true })

theorem fetch_done {τ : Type} [ColumnFamily τ] {channel : Channel} (h : channel.done = true)
    (slots : List (Slot τ)) : channel.fetch slots = noRow channel slots [] := by
  simp [fetch, h]

instance : Cursor Channel where
  columns := columns
  hint channel := channel.queue.length
  fetch := fetch
  close := close
  release channel := channel
  columns_fetch channel slots := by
    unfold fetch
    split
    · rfl
    · split
      · rfl
      · split <;> simp

instance : FiniteCursor Channel where
  remaining channel := channel.queue.length
  remaining_fetch channel slots h := by
    simp only [Cursor.fetch] at h ⊢
    unfold fetch at h ⊢
    split at h
    · simp at h
    · split at h
      · simp at h
      · next hdone hwait =>
        rw [if_neg hdone, if_neg hwait]
        split at h
        · simp at h
        · simp at h
        · next hqueue => simp [hqueue]

end Channel

end RowBind
