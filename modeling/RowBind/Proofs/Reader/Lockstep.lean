import Mathlib.Data.List.Forall2
import RowBind.Proofs.Reader.UnreadList
import RowBind.Reader.Turns

/-!
# Readers in lockstep

Two readers go in lockstep if they stay in a relation when both are asked for a row, and if
both then deliver it, or both do not, into the same destination.  They need not have the same
cursor, nor ask it in the same way.  What they do over any calls follows from that: they take
the same turns, and they read the same rows into a list.

Not every destination may be read in lockstep, so the relation comes with the ways of reading
in which it holds.  And it is left open whether the readers are heard to do the same.

Main statements: `Lockstep.calls`, calls are taken turn by turn alike; `Lockstep.readMany` and
`Lockstep.collect`, the same rows are read.
-/

namespace RowBind

variable {σ ρ τ ε : Type} [ColumnFamily τ]

/-- Two readings deliver the same and leave their readers in relation.  Where the readers are
heard to do the same, so are they. -/
structure Reading.Agrees (heard : Prop) (R : Reader σ → Reader ρ → Prop) (a : Reading σ τ)
    (b : Reading ρ τ) : Prop where
  delivered : a.delivered = b.delivered
  dest : a.dest = b.dest
  log : heard → a.log = b.log
  reader : R a.reader b.reader

/-- Two turns are taken alike. -/
structure Turn.Agrees (heard : Prop) (R : Reader σ → Reader ρ → Prop) (a : Turn σ τ)
    (b : Turn ρ τ) : Prop where
  byField : a.byField = b.byField
  dest : a.dest = b.dest
  reader : R a.reader b.reader
  reading : a.reading.Agrees heard R b.reading

variable [Cursor σ] [Cursor ρ]

namespace Reader

/-- Readers in a relation stay in it when they are asked for a row in an allowed way, and
deliver the same. -/
structure Lockstep (allowed : Bool → Destination τ → Prop) (heard : Prop)
    (R : Reader σ → Reader ρ → Prop) : Prop where
  readRow : ∀ {a : Reader σ} {b : Reader ρ}, R a b → ∀ {byField : Bool} {dest : Destination τ},
    allowed byField dest →
      (a.readRow byField dest).Agrees heard R (b.readRow byField dest)
  /-- They are at work, or both are not. -/
  start : ∀ {a : Reader σ} {b : Reader ρ}, R a b →
    a.start = none ∧ b.start = none ∨
      ∃ started other, a.start = some started ∧ b.start = some other ∧ R started other

variable {allowed : Bool → Destination τ → Prop} {heard : Prop}
  {R : Reader σ → Reader ρ → Prop} {a : Reader σ} {b : Reader ρ}

/-- Asking for the next record comes to the same. -/
theorem Lockstep.reading (h : Lockstep allowed heard R) {records : Records σ τ}
    {others : Records ρ τ} (hrelated : R records.reader others.reader)
    (hblank : records.blank = others.blank) (hdone : records.done = others.done)
    (hallowed : allowed true records.blank) :
    records.reading.Agrees heard R others.reading := by
  rw [Records.reading, Records.reading, ← hblank, ← hdone]
  split
  · exact ⟨rfl, rfl, fun _ => rfl, hrelated⟩
  · exact h.readRow hrelated hallowed

/-- Records are asked for alike. -/
theorem Lockstep.records (h : Lockstep allowed heard R) {records : Records σ τ}
    {others : Records ρ τ} (hrelated : R records.reader others.reader)
    (hblank : records.blank = others.blank) (hdone : records.done = others.done)
    (hallowed : allowed true records.blank) (count : Nat) :
    List.Forall₂ (Turn.Agrees heard R) (records.turns count) (others.turns count) ∧
      R (records.ask count).reader (others.ask count).reader := by
  induction count generalizing records others with
  | zero => exact ⟨.nil, hrelated⟩
  | succ count ih =>
      have hturn := h.reading hrelated hblank hdone hallowed
      have hnext : R records.next.2.1.reader others.next.2.1.reader ∧
          records.next.2.1.blank = others.next.2.1.blank ∧
          records.next.2.1.done = others.next.2.1.done := by
        rw [Records.next_eq, Records.next_eq]
        exact ⟨hturn.reader, hblank, congrArg not hturn.delivered⟩
      have hstill : allowed true records.next.2.1.blank := by
        rw [Records.blank_next]
        exact hallowed
      obtain ⟨hturns, hreader⟩ := ih hnext.1 hnext.2.1 hnext.2.2 hstill
      exact ⟨.cons ⟨rfl, hblank, hrelated, hturn⟩ hturns, hreader⟩

/-- A call is taken alike. -/
theorem Lockstep.call (h : Lockstep allowed heard R) (hrelated : R a b) {call : Call τ}
    (hallowed : call.All allowed) :
    List.Forall₂ (Turn.Agrees heard R) (call.turns a) (call.turns b) ∧
      R (call.run a) (call.run b) := by
  cases call with
  | column dest =>
      have hread := h.readRow hrelated hallowed
      exact ⟨.cons ⟨rfl, rfl, hrelated, hread⟩ .nil, hread.reader⟩
  | fields dest =>
      have hread := h.readRow hrelated hallowed
      exact ⟨.cons ⟨rfl, rfl, hrelated, hread⟩ .nil, hread.reader⟩
  | records blank count =>
      have hblank : allowed true ({ reader := a, blank } : Records σ τ).blank := hallowed
      exact h.records hrelated rfl rfl hblank count

/-- **Calls are taken alike**, turn by turn. -/
theorem Lockstep.calls (h : Lockstep allowed heard R) (hrelated : R a b) {calls : List (Call τ)}
    (hallowed : ∀ call ∈ calls, call.All allowed) :
    List.Forall₂ (Turn.Agrees heard R) (a.turns calls) (b.turns calls) ∧
      R (a.after calls) (b.after calls) := by
  induction calls generalizing a b with
  | nil => exact ⟨.nil, hrelated⟩
  | cons call calls ih =>
      obtain ⟨hturns, hnext⟩ := h.call hrelated (hallowed call List.mem_cons_self)
      obtain ⟨hrest, hafter⟩ :=
        ih hnext fun other hmem => hallowed other (List.mem_cons_of_mem call hmem)
      exact ⟨List.rel_append hturns hrest, hafter⟩

/-- Whatever turns that are taken alike agree in, the turns of calls agree in. -/
theorem Lockstep.map_turns (h : Lockstep allowed heard R) (hrelated : R a b)
    {calls : List (Call τ)} (hallowed : ∀ call ∈ calls, call.All allowed) {α : Type}
    {f : Turn σ τ → α} {g : Turn ρ τ → α}
    (hsame : ∀ {turn other}, Turn.Agrees heard R turn other → f turn = g other) :
    (a.turns calls).map f = (b.turns calls).map g := by
  have hturns := (h.calls hrelated hallowed).1
  rw [← List.forall₂_eq_eq_eq, List.forall₂_map_left_iff, List.forall₂_map_right_iff]
  exact hturns.imp fun _ _ => hsame

variable [FiniteCursor σ] [FiniteCursor ρ]

/-- What many rows come to is the same. -/
structure RowsAgree (heard : Prop) (R : Reader σ → Reader ρ → Prop) (a : Rows σ τ)
    (b : Rows ρ τ) : Prop where
  dests : a.dests = b.dests
  log : heard → a.log = b.log
  reader : R a.reader b.reader

/-- **Many rows are read alike.** -/
theorem Lockstep.readMany (h : Lockstep allowed heard R) (hrelated : R a b) {byField : Bool}
    {blank : Destination τ} (hallowed : allowed byField blank) (limit : Option Nat) :
    RowsAgree heard R (a.readMany byField limit blank) (b.readMany byField limit blank) := by
  fun_induction Reader.readMany byField limit a blank generalizing b
  case case1 reader =>
    rw [readMany_zero]
    exact ⟨rfl, fun _ => rfl, hrelated⟩
  case case2 limit reader hlimit reading hdelivered rows ih =>
    have hread := h.readRow hrelated hallowed
    have hother : (b.readRow byField blank).delivered = true :=
      hread.delivered.symm.trans hdelivered
    have hrest := ih hread.reader
    rw [readMany_step byField hlimit b]
    simp only [hother, if_true]
    refine ⟨?_, fun hheard => ?_, hrest.reader⟩
    · rw [hrest.dests, hread.dest]
    · rw [hrest.log hheard, hread.log hheard]
  case case3 limit reader hlimit reading hdelivered =>
    have hread := h.readRow hrelated hallowed
    have hother : ¬ (b.readRow byField blank).delivered = true :=
      hread.delivered ▸ hdelivered
    rw [readMany_step byField hlimit b]
    simp only [hother]
    exact ⟨rfl, hread.log, hread.reader⟩

/-- What a list comes to is the same. -/
structure ElementsAgree (heard : Prop) (R : Reader σ → Reader ρ → Prop) (a : Elements σ ε)
    (b : Elements ρ ε) : Prop where
  elements : a.elements = b.elements
  log : heard → a.log = b.log
  reader : R a.reader b.reader

/-- **A list is read alike**, if its elements are read in an allowed way unless they are
refused as such. -/
theorem Lockstep.collect (h : Lockstep allowed heard R) (hrelated : R a b)
    {element : ElementType τ ε} (hforce : b.force = a.force)
    (hshape : b.refusal? element.blank = a.refusal? element.blank)
    (hallowed : a.refusal? element.blank = none →
      allowed (element.blank.routingForced a.force).isByField element.blank)
    (hrefused : ∀ cause, a.refusal? element.blank = some cause →
      R (a.fail (.of cause)) (b.fail (.of cause))) (list : List ε) :
    ElementsAgree heard R (a.collect element list) (b.collect element list) := by
  rcases h.start hrelated with ⟨hidle, hidle'⟩ | ⟨started, other, hstarted, hother, hnext⟩
  · simp only [Reader.collect, hidle, hidle']
    exact ⟨rfl, fun _ => rfl, hrelated⟩
  · have hlive : a.start.isSome := by simp [hstarted]
    have hlive' : b.start.isSome := by simp [hother]
    cases hcause : a.refusal? element.blank with
    | some cause =>
        rw [collect_of_refused hlive hcause, collect_of_refused hlive' (hshape.trans hcause)]
        exact ⟨rfl, fun _ => rfl, hrefused cause hcause⟩
    | none =>
        rw [start_eq hlive, Option.some.injEq] at hstarted
        rw [start_eq hlive', Option.some.injEq] at hother
        subst hstarted hother
        have hrows := h.readMany hnext (hallowed hcause) none
        have hby : (element.blank.routingForced b.force).isByField =
            (element.blank.routingForced a.force).isByField := by rw [hforce]
        rw [collect_of_accepted hlive hcause, collect_of_accepted hlive' (hshape.trans hcause), hby]
        exact ⟨congrArg (List.map element.ofTarget) hrows.dests, hrows.log, hrows.reader⟩

end Reader

end RowBind
