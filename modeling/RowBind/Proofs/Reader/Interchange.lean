import RowBind.Proofs.Cursor.Alike
import RowBind.Proofs.Reader.Lockstep
import RowBind.Proofs.Reader.SingleRow

/-!
# Readers over cursors that are alike

A reader knows its cursor by its columns, by the outcomes of fetches with what they leave in
the slots, and by the outcome of closing.  So readers over cursors that are alike do the same
for their callers: they deliver the same rows into the same destinations, count the same
rows, and fail for the same reasons.

The cursors of the library are alike if they are given the same rows, whatever the size of
the pages of one and the room in the channel of the other.  A feed and a channel are alike
also if a failure follows the rows.

Main statements: `Matches.readRow`, rows are read alike; `lockstep_matches`, so the readers go in
lockstep; `Matches.sameSession`, whole sessions are alike; and `cursors_interchangeable`, the
cursors of the library do not differ to a caller.
-/

namespace RowBind

variable {σ ρ τ υ ε : Type} [ColumnFamily τ] [ColumnFamily υ]

/-! ## What a caller sees -/

/-- What a caller sees of a turn. -/
structure Seen (τ : Type) [ColumnFamily τ] where
  delivered : Bool
  dest : Destination τ
  rows : Nat
  failure? : Option Failure

/-- What a caller sees of a reading. -/
def Reading.seen (reading : Reading σ τ) : Seen τ :=
  { delivered := reading.delivered
    dest := reading.dest
    rows := reading.reader.rows
    failure? := reading.reader.failure? }

/-- What a caller sees of turns. -/
def seenOf (turns : List (Turn σ τ)) : List (Seen τ) :=
  turns.map (·.reading.seen)

/-- What a caller sees of the end of a reader. -/
def Ending.seen {α : Type} (ending : Ending σ α) : Outcome Unit × α :=
  (ending.outcome, ending.result)

namespace Reader

/-! ## Readers that match -/

/-- The reader over another cursor. -/
def withCursor (reader : Reader σ) (cursor : ρ) : Reader ρ :=
  { cursor
    naming := reader.naming
    dropUnmatched := reader.dropUnmatched
    force := reader.force
    rows := reader.rows
    phase := reader.phase }

/-- The readers differ in their cursors only, and these are the same to their users. -/
def Matches (same : σ → ρ → Prop) (a : Reader σ) (b : Reader ρ) : Prop :=
  ∃ cursor, same a.cursor cursor ∧ b = a.withCursor cursor

/-- The readings do the same for a caller, and the readers match. -/
structure ReadingsMatch (same : σ → ρ → Prop) (a : Reading σ τ) (b : Reading ρ τ) : Prop where
  delivered : a.delivered = b.delivered
  dest : a.dest = b.dest
  reader : Matches same a.reader b.reader

theorem ReadingsMatch.seen_eq {same : σ → ρ → Prop} {a : Reading σ τ} {b : Reading ρ τ}
    (h : ReadingsMatch same a b) : a.seen = b.seen := by
  obtain ⟨cursor, -, hreader⟩ := h.reader
  rw [Reading.seen, Reading.seen, h.delivered, h.dest, hreader]
  rfl

/-- A fetch with the same outcome is settled the same. -/
theorem readingsMatch_settled {same : σ → ρ → Prop} {reader : Reader σ} {cursor : ρ}
    (hsame : same reader.cursor cursor) (outcome : Outcome Bool) (dest : Destination τ)
    (log log' : Log) : ReadingsMatch same (settled reader outcome dest log)
      (settled (reader.withCursor cursor) outcome dest log') := by
  unfold settled
  split <;> exact ⟨rfl, rfl, cursor, hsame, rfl⟩

/-- The reader starts its work whatever the cursor. -/
theorem start_withCursor (reader : Reader σ) (cursor : ρ) :
    (reader.withCursor cursor).start = reader.start.map (·.withCursor cursor) := by
  cases hphase : reader.phase <;> simp [start, withCursor, hphase]

variable [Cursor σ] [Cursor ρ] {same : σ → ρ → Prop} {a : Reader σ} {b : Reader ρ}

section

variable {reader : Reader σ} {cursor : ρ}

/-- Columns are routed by their names, whatever the cursor. -/
theorem resolve_withCursor (h : Cursor.columns reader.cursor = Cursor.columns cursor)
    (dest : Destination τ) : (reader.withCursor cursor).resolve dest = reader.resolve dest := by
  simp only [resolve, withCursor, Cursor.columnNames, h]

theorem routesFor_withCursor (h : Cursor.columns reader.cursor = Cursor.columns cursor)
    (byField : Bool) (dest : Destination τ) :
    (reader.withCursor cursor).routesFor byField dest = reader.routesFor byField dest := by
  simp only [routesFor, routes?, withCursor, Cursor.columnNames, h]

/-- What speaks against a row is the same. -/
theorem objection?_withCursor (h : Cursor.columns reader.cursor = Cursor.columns cursor)
    (byField : Bool) (dest : Destination τ) :
    (reader.withCursor cursor).objection? byField dest = reader.objection? byField dest := by
  have hresolve := resolve_withCursor h dest
  have hroutes : (reader.withCursor cursor).routes? = reader.routes? := rfl
  have hrows : (reader.withCursor cursor).rows = reader.rows := rfl
  have hcolumns : Cursor.columns (reader.withCursor cursor).cursor = Cursor.columns reader.cursor :=
    h.symm
  simp only [objection?, hresolve, hroutes, hrows, hcolumns]

theorem refusal?_withCursor (h : Cursor.columns reader.cursor = Cursor.columns cursor)
    (blank : Destination τ) :
    (reader.withCursor cursor).refusal? blank = reader.refusal? blank := by
  simp only [refusal?, withCursor, h]
  rfl

theorem prepared_withCursor (h : Cursor.columns reader.cursor = Cursor.columns cursor)
    (byField : Bool) (dest : Destination τ) :
    (reader.withCursor cursor).prepared byField dest =
      ((reader.prepared byField dest).1.withCursor cursor, (reader.prepared byField dest).2) := by
  have hresolve := resolve_withCursor h dest
  have hroutes : (reader.withCursor cursor).routes? = reader.routes? := rfl
  have hfound := routesFor_withCursor h true dest
  simp only [prepared, hresolve, hroutes, hfound]
  split <;> rfl

end

/-- **Rows are read alike.**  A reader over another cursor that is the same to its users does
the same for its caller. -/
theorem Matches.readRow (halike : Cursor.Alike same) (h : Matches same a b) (byField : Bool)
    (dest : Destination τ) :
    ReadingsMatch same (a.readRow byField dest) (b.readRow byField dest) := by
  obtain ⟨cursor, hsame, rfl⟩ := h
  have hcolumns := halike.columns hsame
  have hover := start_withCursor a cursor
  cases hstart : a.start with
  | none =>
      rw [hstart] at hover
      rw [readRow_idle hstart, readRow_idle hover]
      exact ⟨rfl, rfl, cursor, hsame, rfl⟩
  | some started =>
      have hlive : a.start.isSome := by simp [hstart]
      have hover : (a.withCursor cursor).start.isSome := by simp [hover, hstart]
      rw [readRow_eq hlive, readRow_eq hover, objection?_withCursor hcolumns,
        prepared_withCursor hcolumns, routesFor_withCursor hcolumns]
      cases a.objection? byField dest with
      | some failure =>
          refine ⟨rfl, rfl, cursor, ?_, rfl⟩
          have hkept : ((a.prepared byField dest).1.fail failure).cursor = a.cursor :=
            (prepared_kept byField a dest).1
          simpa only [nothing, hkept] using hsame
      | none =>
          obtain ⟨houtcome, hslots, hnext⟩ :=
            halike.fetch hsame (dest.slotsThrough (a.routesFor byField dest))
          dsimp only
          rw [houtcome, hslots]
          exact readingsMatch_settled hnext _ _ _ _

/-! ## Sessions -/

/-- **Readers that match go in lockstep**, in whatever way they are asked for rows. -/
theorem lockstep_matches (halike : Cursor.Alike same) :
    Lockstep (fun _ (_ : Destination τ) => True) False (Matches same) where
  readRow h byField dest _ := by
    have hread := h.readRow halike byField dest
    exact ⟨hread.delivered, hread.dest, False.elim, hread.reader⟩
  start {a b} h := by
    obtain ⟨cursor, hsame, rfl⟩ := h
    have hover := start_withCursor a cursor
    cases hstart : a.start with
    | none => exact Or.inl ⟨rfl, by rw [hover, hstart]; rfl⟩
    | some started =>
        obtain ⟨routes, rfl, -⟩ := eq_of_start hstart
        exact Or.inr ⟨_, _, rfl, by rw [hover, hstart]; rfl, cursor, hsame, rfl⟩

/-- Calls do the same over both cursors. -/
theorem Matches.calls (halike : Cursor.Alike same) (h : Matches same a b)
    (calls : List (Call τ)) :
    seenOf (a.turns calls) = seenOf (b.turns calls) ∧
      Matches same (a.after calls) (b.after calls) := by
  have hlockstep := lockstep_matches (τ := τ) halike
  have hallowed : ∀ call ∈ calls, call.All fun _ _ => True := by
    intro call _
    cases call <;> trivial
  refine ⟨hlockstep.map_turns h hallowed fun hturn => ?_, (hlockstep.calls h hallowed).2⟩
  exact ReadingsMatch.seen_eq ⟨hturn.reading.delivered, hturn.reading.dest, hturn.reading.reader⟩

/-- Closing comes to the same. -/
theorem Matches.close (halike : Cursor.Alike same) (h : Matches same a b) :
    a.close.outcome = b.close.outcome := by
  obtain ⟨cursor, hsame, rfl⟩ := h
  have hclose := (halike.close hsame).1
  cases hphase : a.phase <;> simp [Reader.close, withCursor, hphase, hclose]

/-- A single row that is read in the end comes to the same. -/
theorem Matches.first (halike : Cursor.Alike same) (h : Matches same a b)
    (dest : Destination τ) : (a.first dest).seen = (b.first dest).seen := by
  have hforce : a.force = b.force := by
    obtain ⟨cursor, -, rfl⟩ := h
    rfl
  have hread : ReadingsMatch same (a.read dest) (b.read dest) := by
    rw [read, read, hforce]
    exact h.readRow halike _ dest
  have hrows : (a.read dest).reader.rows = (b.read dest).reader.rows :=
    congrArg Seen.rows hread.seen_eq
  have hclose := hread.reader.close halike
  simp only [Ending.seen, Reader.first, close_rows, hrows, hclose, hread.dest]

variable [FiniteCursor σ] [FiniteCursor ρ]

/-- A list is read alike. -/
theorem Matches.collect (halike : Cursor.Alike same) (h : Matches same a b)
    (element : ElementType τ ε) (list : List ε) :
    (a.collect element list).elements = (b.collect element list).elements ∧
      Matches same (a.collect element list).reader (b.collect element list).reader := by
  obtain ⟨cursor, hsame, rfl⟩ := h
  have hlist := (lockstep_matches halike).collect ⟨cursor, hsame, rfl⟩ rfl
    (refusal?_withCursor (halike.columns hsame) element.blank) (fun _ => trivial)
    (fun _ _ => ⟨cursor, hsame, rfl⟩) list
  exact ⟨hlist.elements, hlist.reader⟩

/-- A list that is read in the end comes to the same. -/
theorem Matches.allAs (halike : Cursor.Alike same) (h : Matches same a b)
    (element : ElementType τ ε) (list : List ε) :
    (a.allAs element list).seen = (b.allAs element list).seen := by
  obtain ⟨helements, hreader⟩ := h.collect halike element list
  have hclose := hreader.close halike
  simp only [Ending.seen, Reader.allAs, hclose, helements]

/-- What a caller sees of a session, however it ends. -/
structure SameSession (a : Reader σ) (b : Reader ρ) (calls : List (Call τ)) : Prop where
  /-- The calls bring the same about: rows, destinations, numbers of rows, failures. -/
  turns : seenOf (a.turns calls) = seenOf (b.turns calls)
  first : ∀ {υ : Type} [ColumnFamily υ] (dest : Destination υ),
    ((a.after calls).first dest).seen = ((b.after calls).first dest).seen
  all : ∀ {υ ε : Type} [ColumnFamily υ] (element : ElementType υ ε) (list : List ε),
    ((a.after calls).allAs element list).seen = ((b.after calls).allAs element list).seen
  close : (a.after calls).close.outcome = (b.after calls).close.outcome

/-- **Sessions are alike.** -/
theorem Matches.sameSession (halike : Cursor.Alike same) (h : Matches same a b)
    (calls : List (Call τ)) : SameSession a b calls := by
  obtain ⟨hturns, hafter⟩ := h.calls halike calls
  exact
    { turns := hturns
      first := fun dest => hafter.first halike dest
      all := fun element list => hafter.allAs halike element list
      close := hafter.close halike }

end Reader

/-! ## The cursors of the library -/

/-- Cursors that do not differ to their users, neither to those that ask them nor to the
callers of a reader. -/
structure Interchangeable [Cursor σ] [Cursor ρ] [FiniteCursor σ] [FiniteCursor ρ] (a : σ)
    (b : ρ) : Prop where
  answers : ∀ {τ : Type} [ColumnFamily τ] (requests : List (Cursor.Request τ)),
    Cursor.answers a requests = Cursor.answers b requests
  sessions : ∀ {τ : Type} [ColumnFamily τ] (naming : Naming) (dropUnmatched force : Bool)
    (calls : List (Call τ)),
    (Reader.fresh a naming dropUnmatched force).SameSession
      (Reader.fresh b naming dropUnmatched force) calls

theorem interchangeable_of_alike [Cursor σ] [Cursor ρ] [FiniteCursor σ] [FiniteCursor ρ]
    {same : σ → ρ → Prop} (halike : Cursor.Alike same) {a : σ} {b : ρ} (hsame : same a b) :
    Interchangeable a b where
  answers requests := halike.answers hsame requests
  sessions _ _ _ calls :=
    Reader.Matches.sameSession halike ⟨b, hsame, rfl⟩ calls

/-- The channel after rows were sent, one after the other. -/
def Channel.sendAll (channel : Channel) (rows : List Row) : Channel :=
  rows.foldl (fun channel row => (channel.send row).2) channel

/-- Rows that are sent come behind those in the queue. -/
theorem Channel.sendAll_eq {channel : Channel} (hopen : channel.closed = false)
    (rows : List Row) :
    channel.sendAll rows = { channel with queue := channel.queue ++ rows.map .ok } := by
  induction rows generalizing channel with
  | nil => simp [sendAll]
  | cons row rows ih =>
      have hsent : (channel.send row).2 = { channel with queue := channel.queue ++ [.ok row] } := by
        simp [send, push, hopen]
      have hrest : sendAll { channel with queue := channel.queue ++ [.ok row] } rows =
          { channel with queue := channel.queue ++ [.ok row] ++ rows.map .ok } := ih hopen
      rw [sendAll, List.foldl_cons, hsent]
      rw [sendAll] at hrest
      rw [hrest, List.map_cons, List.append_assoc]
      rfl

/-- A channel of which every sender is gone, with the given items in its queue. -/
def Channel.ofSent (columns : List ColumnInfo) (size : Nat) (items : List (Outcome Row)) :
    Channel :=
  { Channel.ofSize columns size with queue := items, senders := 0 }

/-- Rows were sent, and the sender was dropped. -/
theorem Channel.dropSender_sendAll (columns : List ColumnInfo) (size : Nat) (rows : List Row) :
    ((ofSize columns size).sendAll rows).dropSender = ofSent columns size (rows.map .ok) := by
  rw [sendAll_eq rfl]
  rfl

/-- Rows were sent, and a failure behind them. -/
theorem Channel.sendFailure_sendAll (columns : List ColumnInfo) (size : Nat) (rows : List Row)
    (failure : Failure) :
    (((ofSize columns size).sendAll rows).sendFailure failure).2 =
      ofSent columns size (rows.map .ok ++ [.error failure]) := by
  rw [sendAll_eq rfl]
  rfl

open Cursor

/-- A feed and a channel whose senders are gone are interchangeable if they have the same
items. -/
theorem interchangeable_feed_channel (columns : List ColumnInfo) (size : Nat)
    (items : List (Outcome Row)) :
    Interchangeable (Feed.ofItems columns items) (Channel.ofSent columns size items) := by
  refine interchangeable_of_alike
    (alike_of_yields yields_feed plain_feed yields_channel plain_channel)
    ⟨rfl, ?_, trivial, rfl⟩
  exact (List.append_nil items).symm

/-- **The cursors of the library are interchangeable.**  Given the same rows, they do not
differ to their users, whatever the size of the pages and the room in the channel; a feed
and a channel do not differ either if a failure follows the rows.  And in every state, a
cursor of the library that has reported the end or a failure, or was closed, takes nothing
more from its source. -/
theorem cursors_interchangeable (columns : List ColumnInfo) (rows : List Row)
    (failure : Failure) (size room : Nat) :
    let paged := Paged.withPageSize { columns, rows } size
    let feed := Feed.ofItems columns (rows.map .ok)
    let channel := ((Channel.ofSize columns (rows.length + room)).sendAll rows).dropSender
    let failingFeed := Feed.ofItems columns (rows.map .ok ++ [.error failure])
    let failingChannel :=
      (((Channel.ofSize columns (rows.length + 1 + room)).sendAll rows).sendFailure failure).2
    (Interchangeable paged feed ∧ Interchangeable feed channel ∧ Interchangeable paged channel ∧
      Interchangeable failingFeed failingChannel) ∧
      StopsTaking Paged.coming Paged.held ∧ StopsTaking Feed.coming Feed.items ∧
        StopsTaking Channel.coming Channel.queue := by
  intro paged feed channel failingFeed failingChannel
  have hpaged : paged.coming = rows.map .ok := Paged.itemsFrom_none 0 rows
  have hchannel : channel = .ofSent columns (rows.length + room) (rows.map .ok) :=
    Channel.dropSender_sendAll columns _ rows
  have hfailing : failingChannel =
      .ofSent columns (rows.length + 1 + room) (rows.map .ok ++ [.error failure]) :=
    Channel.sendFailure_sendAll columns _ rows failure
  refine ⟨⟨?_, ?_, ?_, ?_⟩, stopsTaking_paged, stopsTaking_feed, stopsTaking_channel⟩
  · exact interchangeable_of_alike
      (alike_of_yields yields_paged plain_paged yields_feed plain_feed)
      ⟨rfl, hpaged, ⟨rfl, rfl⟩, trivial⟩
  · rw [hchannel]
    exact interchangeable_feed_channel columns _ _
  · rw [hchannel]
    refine interchangeable_of_alike
      (alike_of_yields yields_paged plain_paged yields_channel plain_channel)
      ⟨rfl, hpaged.trans ?_, ⟨rfl, rfl⟩, rfl⟩
    exact (List.append_nil _).symm
  · rw [hfailing]
    exact interchangeable_feed_channel columns _ _

end RowBind
