import RowBind.Proofs.Cursor.Yielding

/-!
# Cursors that are alike

Two cursors are alike if one cannot tell them apart by asking: they have the same columns,
every fetch turns out the same and leaves the same in its slots, every close turns out the
same, and they are alike after that.  What they log and how they hold their rows may differ.

Cursors to which the same items are coming are alike, as long as every failure is an item of
its source.  And a cursor that has reported the end or a failure of its source, or was
closed, takes nothing more from its source.

Main statements: `Alike.answers`, cursors that are alike give the same answers to the same
requests; `alike_of_yields`, cursors to which the same items are coming are alike; and
`stopsTaking_paged`, `stopsTaking_feed` and `stopsTaking_channel`, the cursors of the library
know when to stop.
-/

namespace RowBind.Cursor

variable {σ ρ τ : Type} [ColumnFamily τ]

/-! ## Requests -/

/-- What a cursor can be asked for. -/
inductive Request (τ : Type) [ColumnFamily τ] where
  | fetch (slots : List (Slot τ))
  | close

/-- What a cursor answers. -/
inductive Answer (τ : Type) [ColumnFamily τ] where
  | fetched (outcome : Outcome Bool) (slots : List (Slot τ))
  | closed (outcome : Outcome Unit)

section

variable [Cursor σ]

/-- The answer to a request. -/
def Request.answer (cursor : σ) : Request τ → Answer τ
  | fetch slots => .fetched (Cursor.fetch cursor slots).outcome (Cursor.fetch cursor slots).slots
  | close => .closed (Cursor.close cursor).1

/-- The cursor after a request. -/
def Request.run (cursor : σ) : Request τ → σ
  | fetch slots => (Cursor.fetch cursor slots).cursor
  | close => (Cursor.close cursor).2

/-- The answers to requests, one after the other. -/
def answers (cursor : σ) : List (Request τ) → List (Answer τ)
  | [] => []
  | request :: requests => request.answer cursor :: answers (request.run cursor) requests

/-- The cursor after some requests. -/
def afterAll (cursor : σ) (requests : List (Request τ)) : σ :=
  requests.foldl Request.run cursor

end

/-! ## Alike -/

variable [Cursor σ] [Cursor ρ]

/-- Cursors that are the same to their users stay so, whatever is asked of them. -/
structure Alike (same : σ → ρ → Prop) : Prop where
  columns : ∀ {a : σ} {b : ρ}, same a b → Cursor.columns a = Cursor.columns b
  fetch : ∀ {a : σ} {b : ρ}, same a b → ∀ {τ : Type} [ColumnFamily τ] (slots : List (Slot τ)),
    (Cursor.fetch a slots).outcome = (Cursor.fetch b slots).outcome ∧
      (Cursor.fetch a slots).slots = (Cursor.fetch b slots).slots ∧
      same (Cursor.fetch a slots).cursor (Cursor.fetch b slots).cursor
  close : ∀ {a : σ} {b : ρ}, same a b → (Cursor.close a).1 = (Cursor.close b).1 ∧
    same (Cursor.close a).2 (Cursor.close b).2

variable {same : σ → ρ → Prop}

/-- A request does not tell the cursors apart. -/
theorem Alike.request (h : Alike same) {a : σ} {b : ρ} (hsame : same a b)
    (request : Request τ) :
    request.answer a = request.answer b ∧ same (request.run a) (request.run b) := by
  cases request with
  | fetch slots =>
      obtain ⟨houtcome, hslots, hnext⟩ := h.fetch hsame slots
      refine ⟨?_, hnext⟩
      rw [Request.answer, Request.answer, houtcome, hslots]
  | close =>
      obtain ⟨houtcome, hnext⟩ := h.close hsame
      refine ⟨?_, hnext⟩
      rw [Request.answer, Request.answer, houtcome]

/-- Cursors that are alike give the same answers to the same requests. -/
theorem Alike.answers (h : Alike same) {a : σ} {b : ρ} (hsame : same a b)
    (requests : List (Request τ)) : Cursor.answers a requests = Cursor.answers b requests := by
  induction requests generalizing a b with
  | nil => rfl
  | cons request requests ih =>
      obtain ⟨hanswer, hnext⟩ := h.request hsame request
      rw [Cursor.answers, Cursor.answers, hanswer, ih hnext]

/-! ## The same items -/

/-- The cursors for which every failure that is coming is an item of the source, and for
which closing goes well. -/
structure Plain (coming held : σ → List (Outcome Row)) (plain : σ → Prop) : Prop where
  fetch : ∀ {cursor : σ}, plain cursor → ∀ {τ : Type} [ColumnFamily τ] (slots : List (Slot τ)),
    plain (Cursor.fetch cursor slots).cursor
  own : ∀ {cursor : σ} {failure : Failure} {items : List (Outcome Row)}, plain cursor →
    coming cursor = .error failure :: items → ∃ others, held cursor = .error failure :: others
  close : ∀ {cursor : σ}, plain cursor → (Cursor.close cursor).1 = .ok () ∧
    plain (Cursor.close cursor).2 ∧ coming (Cursor.close cursor).2 = [] ∧
    Cursor.columns (Cursor.close cursor).2 = Cursor.columns cursor

variable {coming held : σ → List (Outcome Row)} {plain : σ → Prop}
  {coming' held' : ρ → List (Outcome Row)} {plain' : ρ → Prop}

/-- The same columns and the same items. -/
structure SameItems (coming : σ → List (Outcome Row)) (plain : σ → Prop)
    (coming' : ρ → List (Outcome Row)) (plain' : ρ → Prop) (a : σ) (b : ρ) : Prop where
  columns_eq : Cursor.columns a = Cursor.columns b
  coming_eq : coming a = coming' b
  left : plain a
  right : plain' b

/-- **Cursors to which the same items are coming are alike.** -/
theorem alike_of_yields (ha : Yields coming held) (hplain : Plain coming held plain)
    (hb : Yields coming' held') (hplain' : Plain coming' held' plain') :
    Alike (SameItems coming plain coming' plain') where
  columns h := h.columns_eq
  fetch {a b} h τ _ slots := by
    have hleft := (ha a slots).eq_fetchItem fun hcoming => hplain.own h.left hcoming
    have hright := (hb b slots).eq_fetchItem fun hcoming => hplain'.own h.right hcoming
    rw [h.coming_eq, ← hright, Prod.mk.injEq, Prod.mk.injEq] at hleft
    obtain ⟨houtcome, hslots, hnext⟩ := hleft
    refine ⟨houtcome, hslots, ?_, hnext, hplain.fetch h.left slots, hplain'.fetch h.right slots⟩
    rw [Cursor.columns_fetch, Cursor.columns_fetch, h.columns_eq]
  close {a b} h := by
    obtain ⟨hok, hleft, hnone, hcolumns⟩ := hplain.close h.left
    obtain ⟨hok', hright, hnone', hcolumns'⟩ := hplain'.close h.right
    refine ⟨hok.trans hok'.symm, ?_, hnone.trans hnone'.symm, hleft, hright⟩
    rw [hcolumns, hcolumns', h.columns_eq]

/-! ## The cursors of the library -/

/-- A paged cursor that is not told to fail, neither at a row nor on closing. -/
def NeverFails (cursor : Paged) : Prop :=
  cursor.failAt = none ∧ cursor.closeError = none

theorem plain_paged : Plain Paged.coming Paged.held NeverFails where
  fetch {cursor} h τ _ slots := by
    have hloaded : NeverFails cursor.loadPage.1 := by
      unfold Paged.loadPage
      split <;> exact h
    simp only [Cursor.fetch, Paged.fetch]
    split
    · exact h
    · split
      · exact h
      · split
        · exact hloaded
        · rw [deliver_cursor]
          exact hloaded
  own {cursor failure items} h hcoming := by
    -- the items are rows only
    have hmem : .error failure ∈ cursor.coming := by
      rw [hcoming]
      exact List.mem_cons_self
    unfold Paged.coming at hmem
    split at hmem
    · cases hmem
    · rw [h.1, Paged.itemsFrom_none] at hmem
      simp at hmem
  close {cursor} h := by
    simp [Cursor.close, Paged.close, h.2, NeverFails, h.1, Paged.coming, Cursor.columns]

theorem plain_feed : Plain Feed.coming Feed.items fun _ => True where
  fetch _ := fun _ => trivial
  own {cursor failure items} _ hcoming := by
    unfold Feed.coming at hcoming
    split at hcoming
    · cases hcoming
    · exact ⟨items, hcoming⟩
  close _ := ⟨rfl, trivial, rfl, rfl⟩

/-- A channel whose senders are gone. -/
def AllSent (channel : Channel) : Prop :=
  channel.senders = 0

theorem plain_channel : Plain Channel.coming Channel.queue AllSent where
  fetch {cursor} h τ _ slots := by
    rw [show Cursor.fetch cursor slots = cursor.fetch slots from rfl, Channel.fetch_eq]
    split
    · exact h
    · split
      · rw [deliver_cursor]
        exact h
      · exact h
      · split <;> exact h
  own {cursor failure items} h hcoming := by
    have hnone : cursor.behindQueue = [] := if_pos (Or.inr h)
    unfold Channel.coming at hcoming
    split at hcoming
    · cases hcoming
    · rw [hnone, List.append_nil] at hcoming
      exact ⟨items, hcoming⟩
  close h := ⟨rfl, h, rfl, rfl⟩

/-! ## Nothing more is taken -/

/-- The request is answered with the end of the result or with a failure that is coming, or
it closes the cursor. -/
def Finishes (coming : σ → List (Outcome Row)) (cursor : σ) : Request τ → Prop
  | .fetch slots => (Cursor.fetch cursor slots).outcome = .ok false ∨
      ∃ failure items, coming cursor = .error failure :: items
  | .close => True

/-- Behind a request that finishes a cursor, whatever is asked of it takes nothing from its
source. -/
def StopsTaking (coming held : σ → List (Outcome Row)) : Prop :=
  ∀ {τ : Type} [ColumnFamily τ] (cursor : σ) (request : Request τ),
    Finishes coming cursor request → ∀ later : List (Request τ),
      held (afterAll (request.run cursor) later) = held (request.run cursor)

/-- Behind a request that finishes it, a cursor is spent. -/
theorem Yields.spent_of_finishes (h : Yields coming held)
    (hclose : ∀ cursor, coming (Cursor.close cursor).2 = []) {cursor : σ} {request : Request τ}
    (hfinishes : Finishes coming cursor request) : Spent coming held (request.run cursor) := by
  cases request with
  | fetch slots =>
      rcases hfinishes with hend | ⟨failure, items, hcoming⟩
      · exact (h cursor slots).spent_of_end hend
      · exact (h cursor slots).spent_of_failure hcoming
  | close => exact spent_of_nil (hclose cursor)

/-- Nothing is taken from the source of a cursor that is spent. -/
theorem Yields.held_afterAll (h : Yields coming held)
    (hclose : ∀ cursor, coming (Cursor.close cursor).2 = [])
    (hkeep : ∀ cursor, held (Cursor.close cursor).2 = held cursor) {cursor : σ}
    (hspent : Spent coming held cursor) (later : List (Request τ)) :
    held (afterAll cursor later) = held cursor := by
  induction later generalizing cursor with
  | nil => rfl
  | cons request later ih =>
      rw [afterAll, List.foldl_cons]
      cases request with
      | fetch slots =>
          obtain ⟨hnext, hheld⟩ := (h cursor slots).spent hspent
          exact (ih hnext).trans hheld
      | close => exact (ih (spent_of_nil (hclose cursor))).trans (hkeep cursor)

/-- A cursor that yields its items and nothing behind a close stops taking them. -/
theorem Yields.stopsTaking (h : Yields coming held)
    (hclose : ∀ cursor, coming (Cursor.close cursor).2 = [])
    (hkeep : ∀ cursor, held (Cursor.close cursor).2 = held cursor) :
    StopsTaking coming held :=
  fun _ _ hfinishes later =>
    h.held_afterAll hclose hkeep (h.spent_of_finishes hclose hfinishes) later

theorem stopsTaking_paged : StopsTaking Paged.coming Paged.held := by
  refine yields_paged.stopsTaking (fun cursor => ?_) fun cursor => ?_
  · cases h : cursor.closeError <;> simp [Cursor.close, Paged.close, h, Paged.coming]
  · cases h : cursor.closeError <;> simp [Cursor.close, Paged.close, h, Paged.held]

theorem stopsTaking_feed : StopsTaking Feed.coming Feed.items :=
  yields_feed.stopsTaking (fun _ => rfl) fun _ => rfl

theorem stopsTaking_channel : StopsTaking Channel.coming Channel.queue :=
  yields_channel.stopsTaking (fun _ => rfl) fun _ => rfl

end RowBind.Cursor
