import RowBind.Column.Scalar.Convert
import RowBind.Cursor.Any
import RowBind.Cursor.Overheard
import RowBind.Proofs.Reader.SingleRow
import RowBind.Reader.Turns

/-!
# The first failure of a reader

A reader fails once.  Where a fetch fails, the failure of the reader is that of the fetch
with nothing changed, and one activity in front of it that tells the number of the row.
Once the reader has failed, whatever is asked of it brings nothing about: no row, no change
to a destination or to a list, nothing asked of the cursor.  In the end the failure comes
out as it is, also where closing the cursor fails as well.

Main statements: `RecordsHeard.of_step`, a step keeps record of what fails;
`StandsBy.of_failed`, a reader that has failed stands by its failure; and
`first_failure_stays`, both of any reader and however it is given up.
-/

namespace RowBind.Reader

variable {σ τ ε : Type} [ColumnFamily τ]

theorem failure?_eq_some_iff {reader : Reader σ} {failure : Failure} :
    reader.failure? = some failure ↔ reader.phase = .failed failure := by
  cases h : reader.phase <;> simp [failure?, h]

/-- A reader that has failed is open. -/
theorem phase_ne_of_failure? {reader : Reader σ} {failure : Failure}
    (h : reader.failure? = some failure) : reader.phase ≠ .closed := by
  rw [failure?_eq_some_iff.mp h]
  simp

/-- What failed in a fetch is the failure of the reader, with the number of the row in front
of it.  No fetch has failed besides. -/
def RecordsHeard (reader : Reader (Overheard σ)) : Prop :=
  reader.cursor.failures = [] ∨
    ∃ failure, reader.cursor.failures = [failure] ∧
      reader.failure? = some (failure.within (.fetching (reader.rows + 1)))

/-- The cursor of a reader that can go on has not failed. -/
theorem RecordsHeard.failures_eq_nil {reader : Reader (Overheard σ)} (h : reader.RecordsHeard)
    (hlive : reader.start.isSome) : reader.cursor.failures = [] := by
  rcases h with hnone | ⟨failure, -, hfailed⟩
  · exact hnone
  · simp [start, failure?_eq_some_iff.mp hfailed] at hlive

variable [Cursor σ]

/-! ## A failure that is there -/

/-- The failure of a reader is what closing it comes to. -/
theorem close_outcome_of_failure? {reader : Reader σ} {failure : Failure}
    (h : reader.failure? = some failure) : reader.close.outcome = .error failure := by
  rw [close_outcome (phase_ne_of_failure? h), h]

/-- A failure that is there when a single row was read is what reading it comes to. -/
theorem first_outcome_of_failure? {reader : Reader σ} {dest : Destination τ}
    {failure : Failure} (h : (reader.read dest).reader.failure? = some failure) :
    (reader.first dest).outcome = .error failure := by
  rw [first_outcome (phase_ne_of_failure? h), h]

/-- A failure that is there when a list was read is what reading it comes to. -/
theorem allAs_outcome_of_failure? [FiniteCursor σ] {reader : Reader σ}
    {element : ElementType τ ε} {list : List ε} {failure : Failure}
    (h : (reader.collect element list).reader.failure? = some failure) :
    (reader.allAs element list).outcome = .error failure :=
  close_outcome_of_failure? h

/-- What is to be expected of a reader that has failed, whatever is asked of it. -/
structure StandsBy (failure : Failure) (reader : Reader σ) : Prop where
  /-- The failure is reported. -/
  reported : reader.failure? = some failure
  /-- Calls bring nothing about.  No row is there, the destinations stay as they are, and
  so does the reader with its failure, its number of rows and its cursor. -/
  idle : ∀ {υ : Type} [ColumnFamily υ] (calls : List (Call υ)),
    reader.after calls = reader ∧
      ∀ turn ∈ reader.turns calls, turn.reading = nothing reader turn.dest []
  /-- There are no records any more. -/
  no_records : ∀ {υ : Type} [ColumnFamily υ] (blank : Destination υ) (count : Nat),
    (Records.ask count { reader, blank }).next.1 = none
  /-- Reading a single row leaves the destination alone and comes to the failure. -/
  first : ∀ {υ : Type} [ColumnFamily υ] (dest : Destination υ),
    (reader.first dest).outcome = .error failure ∧ (reader.first dest).result = dest
  /-- Reading a list leaves the list alone and comes to the failure. -/
  all : ∀ {υ ε : Type} [ColumnFamily υ] [FiniteCursor σ] (element : ElementType υ ε)
    (list : List ε), (reader.allAs element list).outcome = .error failure ∧
      (reader.allAs element list).result = list
  /-- Closing comes to the failure. -/
  close : reader.close.outcome = .error failure

/-- Calls leave a reader that has failed alone. -/
theorem idle_of_failed {reader : Reader σ} {failure : Failure}
    (h : reader.phase = .failed failure) (calls : List (Call τ)) :
    reader.after calls = reader ∧
      ∀ turn ∈ reader.turns calls, turn.reading = nothing reader turn.dest [] := by
  refine turns_induction (P := fun turns after => after = reader ∧
    ∀ turn ∈ turns, turn.reading = nothing reader turn.dest []) ?_ ?_ ⟨rfl, by simp⟩ calls
  · rintro turns after byField dest ⟨rfl, hturns⟩
    have hread := readRow_failed h byField dest
    refine ⟨by rw [hread]; rfl, ?_⟩
    intro turn hmem
    rcases List.mem_append.mp hmem with hmem | hmem
    · exact hturns turn hmem
    · rw [List.mem_singleton.mp hmem]
      exact hread
  · rintro turns after dest ⟨rfl, hturns⟩ -
    refine ⟨rfl, ?_⟩
    intro turn hmem
    rcases List.mem_append.mp hmem with hmem | hmem
    · exact hturns turn hmem
    · rw [List.mem_singleton.mp hmem]

/-- **A reader that has failed stands by its failure.** -/
theorem StandsBy.of_failed {reader : Reader σ} {failure : Failure}
    (h : reader.failure? = some failure) : StandsBy failure reader := by
  have hphase := failure?_eq_some_iff.mp h
  have hread : ∀ {υ : Type} [ColumnFamily υ] (dest : Destination υ),
      reader.read dest = nothing reader dest [] :=
    fun dest => readRow_failed hphase _ dest
  refine
    { reported := h
      idle := fun calls => idle_of_failed hphase calls
      no_records := fun blank count => ?_
      first := fun dest => ⟨first_outcome_of_failure? ?_, ?_⟩
      all := fun element list => ⟨allAs_outcome_of_failure? ?_, ?_⟩
      close := close_outcome_of_failure? h }
  · have hasked : (Records.ask count { reader, blank }).reader = reader :=
      (idle_of_failed hphase [.records blank count]).1
    cases hdone : (Records.ask count { reader, blank }).done with
    | true => rw [Records.next_of_done hdone]
    | false =>
        have hnone : (Records.ask count { reader, blank }).reading =
            nothing reader (Records.ask count { reader, blank }).blank [] := by
          simp only [Records.reading, hdone, hasked]
          exact readRow_failed hphase true _
        simp [Records.next_eq, hnone]
  · rw [hread]
    exact h
  · change (reader.read dest).dest = dest
    rw [hread]
    rfl
  · simpa [collect, start, hphase] using h
  · simp [allAs, collect, start, hphase]

/-! ## A failure that arises -/

/-- A step keeps record of what fails. -/
theorem RecordsHeard.of_step {byField : Bool} {reader : Reader (Overheard σ)}
    {dest : Destination τ} {reading : Reading (Overheard σ) τ} (h : reader.RecordsHeard)
    (hstep : Step byField reader dest reading) : reading.reader.RecordsHeard := by
  cases hstep with
  | idle => exact h
  | refused hlive => exact Or.inl (h.failures_eq_nil hlive)
  | fetched hlive _ _ slots _ log =>
      have hheard := Overheard.failures_fetch reader.cursor slots
      rw [h.failures_eq_nil hlive, List.nil_append] at hheard
      cases houtcome : (Cursor.fetch reader.cursor slots).outcome with
      | error failure =>
          rw [houtcome] at hheard
          exact Or.inr ⟨failure, hheard, rfl⟩
      | ok delivered =>
          rw [houtcome] at hheard
          cases delivered <;> exact Or.inl hheard

theorem RecordsHeard.readRow {reader : Reader (Overheard σ)} (h : reader.RecordsHeard)
    (byField : Bool) (dest : Destination τ) :
    (reader.readRow byField dest).reader.RecordsHeard :=
  h.of_step (step_readRow byField reader dest)

/-- Reading a list keeps record of what fails. -/
theorem RecordsHeard.collect [FiniteCursor (Overheard σ)] {reader : Reader (Overheard σ)}
    (h : reader.RecordsHeard) (element : ElementType τ ε) (list : List ε) :
    (reader.collect element list).reader.RecordsHeard := by
  unfold Reader.collect
  cases hstart : reader.start with
  | none => exact h
  | some started =>
      have hquiet := h.failures_eq_nil (by simp [hstart])
      obtain ⟨routes, rfl, -⟩ := eq_of_start hstart
      dsimp only
      split
      · exact Or.inl hquiet
      · exact readMany_induction (fun _ hreader => hreader.readRow _ _) none (Or.inl hquiet)

/-! ## Any reader -/

/-- What is to be expected of a reader as far as failures go, whatever was asked of it and
however it is given up. -/
structure KeepsFirstFailure (reader : Reader (Overheard σ)) : Prop where
  /-- What failed in a fetch so far is the failure of the reader. -/
  heard : reader.RecordsHeard
  /-- So is what fails while a single row is read in the end, and that comes out. -/
  first : ∀ {υ : Type} [ColumnFamily υ] (dest : Destination υ),
    (reader.read dest).reader.RecordsHeard ∧
      ∀ failure, (reader.read dest).reader.failure? = some failure →
        (reader.first dest).outcome = .error failure
  /-- So is what fails while a list is read in the end, and that comes out. -/
  all : ∀ {υ ε : Type} [ColumnFamily υ] [FiniteCursor σ] (element : ElementType υ ε)
    (list : List ε), (reader.collect element list).reader.RecordsHeard ∧
      ∀ failure, (reader.collect element list).reader.failure? = some failure →
        (reader.allAs element list).outcome = .error failure
  /-- Once it has failed, the reader stands by its failure. -/
  stands : ∀ failure, reader.failure? = some failure → StandsBy failure reader

/-- **The first failure stays.**  However a reader was called, what failed in a fetch is its
failure, and once it has failed, whatever is asked of it brings nothing about but this
failure. -/
theorem first_failure_stays (cursor : σ) (naming : Naming) (dropUnmatched force : Bool)
    (calls : List (Call τ)) :
    KeepsFirstFailure
      ((fresh (Overheard.ofCursor cursor) naming dropUnmatched force).after calls) := by
  have hheard : RecordsHeard
      ((fresh (Overheard.ofCursor cursor) naming dropUnmatched force).after calls) :=
    after_induction (fun byField dest _ hreader => hreader.readRow byField dest) calls
      (Or.inl rfl)
  exact
    { heard := hheard
      first := fun dest =>
        ⟨hheard.readRow _ dest, fun _ hfailed => first_outcome_of_failure? hfailed⟩
      all := fun element list =>
        ⟨hheard.collect element list, fun _ hfailed => allAs_outcome_of_failure? hfailed⟩
      stands := fun _ hfailed => StandsBy.of_failed hfailed }

/-- A reader whose second row fails, over a cursor that cannot be closed either. -/
theorem first_failure_stays_unclosable :
    let cursor : Paged :=
      { columns := [{ name := "flag" }]
        rows := [[.bool (some true)], [.bool (some false)]]
        failAt := some 1
        closeError := some "The connection is gone" }
    let flag : Destination Scalar := .column ⟨.bool, false⟩
    let reader := (fresh (Overheard.ofCursor cursor) .asWritten false false).after
      [.column flag, .column flag, .column flag]
    let failure : Failure := ⟨[.fetching 2], .told "Failure while fetching row 1"⟩
    reader.failure? = some failure ∧ reader.rows = 1 ∧
      (Cursor.close reader.cursor).1 = failFor (.told "The connection is gone") ∧
      StandsBy failure reader := by
  intro cursor flag reader failure
  have hfailed : reader.failure? = some failure := by with_unfolding_all rfl
  refine ⟨hfailed, rfl, rfl, ?_⟩
  exact (first_failure_stays cursor .asWritten false false _).stands failure hfailed

end RowBind.Reader
