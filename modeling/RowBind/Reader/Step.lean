import RowBind.Reader

/-!
# One step of a reader

Reading a row can turn out in three ways.  A reader that has failed or was closed is left
alone; a row may be refused for the shape of the result and the destination, and then the
cursor is not asked for it; or the cursor is asked for it once, and what comes of that is
what the reader makes of the outcome.

Everything that holds along the run of a reader is derived from this case analysis, and
no proof about runs looks into the ways of reading themselves.

Main statements: `step_readRow`, the case analysis; `remaining_readRow`, every row that is
read brings the end of a finite result closer.
-/

namespace RowBind.Reader

variable {σ τ : Type} [ColumnFamily τ]

/-- What was logged before comes in front of what a reading logs. -/
theorem settled_log (reader : Reader σ) (outcome : Outcome Bool) (dest : Destination τ)
    (before log : Log) :
    { settled reader outcome dest log with
      log := before ++ (settled reader outcome dest log).log } =
      settled reader outcome dest (before ++ log) := by
  unfold settled
  split <;> rfl

/-- A reading that is settled leaves the reader open. -/
theorem settled_phase_ne {reader : Reader σ} (h : reader.phase ≠ .closed)
    (outcome : Outcome Bool) (dest : Destination τ) (log : Log) :
    (settled reader outcome dest log).reader.phase ≠ .closed := by
  unfold settled
  split
  · exact h
  · exact h
  · simp [nothing, fail]

/-- A reader at work is the reader itself, with its rows under way. -/
theorem eq_of_start {reader started : Reader σ} (h : reader.start = some started) :
    ∃ routes, started = { reader with phase := .reading routes } ∧
      (reader.phase = .reading routes ∨ reader.phase = .fresh ∧ routes = none) := by
  cases hphase : reader.phase with
  | fresh =>
      refine ⟨none, ?_, Or.inr ⟨rfl, rfl⟩⟩
      simpa [start, hphase] using h.symm
  | reading routes =>
      refine ⟨routes, ?_, Or.inl rfl⟩
      have hsame : reader = started := by simpa [start, hphase] using h
      rw [← hsame, ← hphase]
  | failed failure => simp [start, hphase] at h
  | closed => simp [start, hphase] at h

variable [Cursor σ]

/-- Where the routes come from with which a reader goes on: it has them already, or it is
about to read by field and finds them for the destination. -/
def RoutesFrom (byField : Bool) (reader : Reader σ) (dest : Destination τ)
    (routes : Option Routes) : Prop :=
  ∀ known, routes = some known → reader.phase = .reading (some known) ∨
    byField = true ∧
      known = (reader.naming.routes dest.key (Cursor.columnNames reader.cursor)).1

/-- The ways in which reading a row can turn out. -/
inductive Step (byField : Bool) (reader : Reader σ) (dest : Destination τ) :
    Reading σ τ → Prop
  /-- The reader has failed or was closed, and is left alone. -/
  | idle (hstart : reader.start = none) : Step byField reader dest (nothing reader dest [])
  /-- The row is refused before the cursor is asked for it. -/
  | refused (hstart : reader.start.isSome) {naming : Naming}
      (hrule : naming.rule = reader.naming.rule) (failure : Failure) (log : Log) :
      Step byField reader dest (nothing ({ reader with naming }.fail failure) dest log)
  /-- The cursor is asked for the row, once; a destination changes through its slots
  only. -/
  | fetched (hstart : reader.start.isSome) {naming : Naming}
      (hrule : naming.rule = reader.naming.rule) {routes : Option Routes}
      (hroutes : RoutesFrom byField reader dest routes)
      (slots : List (Slot τ)) {after : Destination τ}
      (hkept : (Cursor.fetch reader.cursor slots).slots = slots → after = dest) (log : Log) :
      Step byField reader dest (settled
        { reader with
          cursor := (Cursor.fetch reader.cursor slots).cursor
          naming
          phase := .reading routes }
        (Cursor.fetch reader.cursor slots).outcome after log)

/-- The routes that a reader has come from the reader. -/
theorem routesFrom_of_start {reader : Reader σ} {routes : Option Routes}
    (h : reader.phase = .reading routes ∨ reader.phase = .fresh ∧ routes = none)
    (byField : Bool) (dest : Destination τ) : RoutesFrom byField reader dest routes := by
  rintro known rfl
  rcases h with h | ⟨-, h⟩
  · exact Or.inl h
  · cases h

/-- A fetch through a single slot is a step. -/
theorem step_fetchColumn {reader started : Reader σ} (h : reader.start = some started)
    (dest : Destination τ) : Step false reader dest (started.fetchColumn dest) := by
  obtain ⟨routes, rfl, hroutes⟩ := eq_of_start h
  refine Step.fetched (by simp [h]) rfl (routesFrom_of_start hroutes _ _) [.field dest] ?_ _
  intro hkept
  simp [hkept]

/-- A fetch by field is a step, also where the destination turns out to have no fields. -/
theorem step_fetchFields {reader started : Reader σ} (h : reader.start = some started)
    {naming : Naming} (hrule : naming.rule = reader.naming.rule) {routes : Routes}
    {dest : Destination τ} (hroutes : RoutesFrom true reader dest (some routes))
    (before : Log) :
    let reading :=
      { started with naming, phase := .reading (some routes) }.fetchFields routes dest
    Step true reader dest { reading with log := before ++ reading.log } := by
  obtain ⟨known, rfl, -⟩ := eq_of_start h
  cases dest with
  | column cell => exact Step.refused (by simp [h]) hrule _ _
  | record info fields =>
      simp only [fetchFields, Destination.withSlots, settled_log]
      refine Step.fetched (by simp [h]) hrule hroutes _ ?_ _
      intro hkept
      rw [hkept, putBack_slotOf, Record.refill_cells]

/-- Routing columns does not change the rule for names. -/
theorem resolve_rule (reader : Reader σ) (dest : Destination τ) :
    (reader.resolve dest).2.1.rule = reader.naming.rule := by
  unfold resolve
  split
  · rfl
  · have hrule := reader.naming.table_rule dest.key
    dsimp only [Naming.routes]
    split <;> exact hrule

/-- Columns that were routed are routed as the naming says. -/
theorem resolve_routes {reader : Reader σ} {dest : Destination τ} {routes : Routes}
    {naming : Naming} {log : Log} (h : reader.resolve dest = (.ok routes, naming, log)) :
    routes = (reader.naming.routes dest.key (Cursor.columnNames reader.cursor)).1 := by
  unfold resolve at h
  split at h
  · cases h
  · dsimp only at h
    split at h
    · cases h
    · cases h
      rfl

theorem step_readColumn (reader : Reader σ) (dest : Destination τ) :
    Step false reader dest (reader.readColumn dest) := by
  unfold readColumn
  cases h : reader.start with
  | none => exact Step.idle h
  | some started =>
      have hlive : reader.start.isSome := by simp [h]
      obtain ⟨routes, rfl, -⟩ := eq_of_start h
      simp only [scanColumn]
      split
      · exact Step.refused hlive rfl _ _
      · split
        · exact Step.refused hlive rfl _ _
        · exact step_fetchColumn h dest

theorem step_readFields (reader : Reader σ) (dest : Destination τ) :
    Step true reader dest (reader.readFields dest) := by
  unfold readFields
  cases h : reader.start with
  | none => exact Step.idle h
  | some started =>
      have hlive : reader.start.isSome := by simp [h]
      obtain ⟨known, rfl, hknown⟩ := eq_of_start h
      cases known with
      | some routes =>
          exact step_fetchFields h rfl (routesFrom_of_start hknown true dest) []
      | none =>
          have hrule := resolve_rule { reader with phase := .reading none } dest
          simp only [scanFields]
          split
          · next failure naming log hres =>
            rw [hres] at hrule
            exact Step.refused hlive hrule failure log
          · next routes naming log hres =>
            rw [hres] at hrule
            refine step_fetchFields h hrule ?_ log
            rintro _ ⟨⟩
            exact Or.inr ⟨rfl, resolve_routes hres⟩

/-- **The case analysis of a step.**  However a row is read, it turns out in one of the
three ways. -/
theorem step_readRow (byField : Bool) (reader : Reader σ) (dest : Destination τ) :
    Step byField reader dest (reader.readRow byField dest) := by
  cases byField with
  | true => exact step_readFields reader dest
  | false => exact step_readColumn reader dest

/-- A step leaves the reader open. -/
theorem Step.phase_ne {byField : Bool} {reader : Reader σ} {dest : Destination τ}
    {reading : Reading σ τ} (hstep : Step byField reader dest reading)
    (h : reader.phase ≠ .closed) : reading.reader.phase ≠ .closed := by
  cases hstep with
  | idle => exact h
  | refused => simp [nothing, fail]
  | fetched => exact settled_phase_ne (by simp) _ _ _

/-- A row that is read brings the end of a finite result closer. -/
theorem remaining_readRow [FiniteCursor σ] (byField : Bool) (reader : Reader σ)
    (dest : Destination τ) (h : (reader.readRow byField dest).delivered = true) :
    FiniteCursor.remaining (reader.readRow byField dest).reader.cursor <
      FiniteCursor.remaining reader.cursor := by
  have hstep := step_readRow byField reader dest
  revert h hstep
  generalize reader.readRow byField dest = reading
  intro h hstep
  cases hstep with
  | idle => simp at h
  | refused => simp at h
  | fetched hstart hrule hroutes slots hkept log =>
      rw [settled_cursor]
      exact FiniteCursor.remaining_fetch reader.cursor slots (settled_delivered h)

end RowBind.Reader
