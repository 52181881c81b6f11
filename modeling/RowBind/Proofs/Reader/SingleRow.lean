import RowBind.Column.Scalar.Convert
import RowBind.Proofs.Cursor.EndOfResult
import RowBind.Proofs.Reader.Closing

/-!
# Reading a single row

A single row is asked for in the end of a reader that may have read rows before.  What is
to be expected of that is written down as a contract: success means that the row asked for
was there, a result that is exhausted is reported as such and leaves the destination alone,
and what went wrong otherwise is told.

The reader does not look at the row it asked for; it looks at the number of all rows it
ever read.  So the contract is kept by every reader that has read nothing before, and by
every other one unless the result is exhausted: then success is claimed for a row that does
not exist.

Main statements: `first_outcome`, how reading a single row turns out; `rows_eq_countP`, the
number of rows is that of the fetches that delivered; `singleRowContract_iff`, when the
contract is kept; and `not_singleRowContract_behind_last`, a reader that breaks it.
-/

namespace RowBind

/-- A fetch that delivered a row. -/
def CursorEvent.isDelivery : CursorEvent → Bool
  | fetched _ delivered => delivered
  | failed _ | closed | released => false

namespace Reader

variable {σ τ : Type} [ColumnFamily τ]

variable [Cursor σ]

/-! ## What a single row is asked with -/

/-- What the cursor is asked for to read a single row, before it is closed. -/
def fetchesForFirst (reader : Reader (Recorded σ)) (dest : Destination τ) : List CursorEvent :=
  (reader.read dest).reader.cursor.events.drop reader.cursor.events.length

/-- The row that is asked for is there. -/
def DeliversFirst (reader : Reader (Recorded σ)) (dest : Destination τ) : Prop :=
  ∃ slots, reader.fetchesForFirst dest = [.fetched slots true]

/-- The row that is asked for is not there, since the result is exhausted. -/
def ExhaustedAtFirst (reader : Reader (Recorded σ)) (dest : Destination τ) : Prop :=
  ∃ slots, reader.fetchesForFirst dest = [.fetched slots false]

/-- How closing the cursor turns out behind a single row. -/
def closingAfterFirst (reader : Reader σ) (dest : Destination τ) : Outcome Unit :=
  (Cursor.close (reader.read dest).reader.cursor).1

/-- What is to be expected of reading a single row. -/
structure SingleRowContract (reader : Reader (Recorded σ)) (dest : Destination τ) : Prop where
  /-- The cursor is asked for no more than one row. -/
  one_fetch : (reader.fetchesForFirst dest).length ≤ 1
  /-- A row that could be asked for was asked for. -/
  asked : (reader.read dest).reader.failure? = none →
    reader.DeliversFirst dest ∨ reader.ExhaustedAtFirst dest
  /-- Success means that nothing has failed and that the row was there. -/
  success : (reader.first dest).outcome = .ok () ↔
    (reader.read dest).reader.failure? = none ∧ reader.DeliversFirst dest ∧
      reader.closingAfterFirst dest = .ok ()
  /-- The end of the result is reported. -/
  exhausted : reader.ExhaustedAtFirst dest → reader.closingAfterFirst dest = .ok () →
    (reader.first dest).outcome = failFor .noRow
  /-- The end of the result leaves the destination alone. -/
  untouched : Cursor.SilentAtEnd σ τ → reader.ExhaustedAtFirst dest →
    (reader.first dest).result = dest
  /-- What went wrong while reading is told. -/
  failed : ∀ failure, (reader.read dest).reader.failure? = some failure →
    (reader.first dest).outcome = .error failure
  /-- What went wrong while closing is told, if nothing did before. -/
  unclosed : ∀ failure, (reader.read dest).reader.failure? = none →
    reader.closingAfterFirst dest = .error failure →
    (reader.first dest).outcome = .error (failure.within .closing)

/-! ## How it turns out -/

/-- Closing a reader forgets nothing of the rows it read. -/
theorem close_rows (reader : Reader σ) : reader.close.reader.rows = reader.rows := by
  unfold close
  split <;> rfl

/-- **How reading a single row turns out.**  A failure of the reader comes first, then one
of closing; in the end it is the number of all rows ever read that counts. -/
theorem first_outcome {reader : Reader σ} {dest : Destination τ}
    (h : (reader.read dest).reader.phase ≠ .closed) :
    (reader.first dest).outcome =
      match (reader.read dest).reader.failure?, reader.closingAfterFirst dest with
      | some failure, _ => .error failure
      | none, .error failure => .error (failure.within .closing)
      | none, .ok () =>
        if (reader.read dest).reader.rows = 0 then failFor .noRow else .ok () := by
  simp only [first, close_outcome h, close_rows, closingAfterFirst]
  cases (reader.read dest).reader.failure? <;>
    cases (Cursor.close (reader.read dest).reader.cursor).1 <;> rfl

/-- The ways in which the row is read, as they show in the account of the cursor. -/
inductive Attempt (reader : Reader (Recorded σ)) (dest : Destination τ) : Prop
  /-- The row was not asked for, for a failure. -/
  | unasked (hfetches : reader.fetchesForFirst dest = [])
      (hfailed : (reader.read dest).reader.failure?.isSome)
  /-- The row was there. -/
  | delivered (slots : Nat) (hfetches : reader.fetchesForFirst dest = [.fetched slots true])
      (hfine : (reader.read dest).reader.failure? = none)
      (hrows : (reader.read dest).reader.rows = reader.rows + 1)
  /-- There was no row. -/
  | exhausted (slots : Nat) (hfetches : reader.fetchesForFirst dest = [.fetched slots false])
      (hfine : (reader.read dest).reader.failure? = none)
      (hrows : (reader.read dest).reader.rows = reader.rows)
      (hsame : Cursor.SilentAtEnd σ τ → (reader.read dest).dest = dest)
  /-- Fetching the row failed. -/
  | broken (slots : Nat) (hfetches : reader.fetchesForFirst dest = [.failed slots])
      (hfailed : (reader.read dest).reader.failure?.isSome)

/-- A reader that is open reads the row in one of these ways. -/
theorem attempt_of_open {reader : Reader (Recorded σ)} (hopen : reader.phase ≠ .closed)
    (dest : Destination τ) : reader.Attempt dest := by
  have hstep : Step (dest.routingForced reader.force).isByField reader dest
      (reader.read dest) := step_readRow _ reader dest
  generalize hread : reader.read dest = reading at hstep
  cases hstep with
  | idle hstart =>
      refine .unasked ?_ ?_
      · simp [fetchesForFirst, hread, nothing]
      · rw [hread]
        cases hphase : reader.phase <;> simp_all [start, nothing, failure?]
  | refused hstart hrule failure log =>
      refine .unasked ?_ ?_
      · simp [fetchesForFirst, hread, nothing, fail]
      · simp [hread, nothing, fail, failure?]
  | fetched hstart hrule hroutes slots hkept log =>
      have hfetches : reader.fetchesForFirst dest =
          [Recorded.eventOf slots.length (Cursor.fetch reader.cursor slots).outcome] := by
        rw [fetchesForFirst, hread, settled_cursor, Recorded.events_fetch, List.drop_left]
      cases houtcome : (Cursor.fetch reader.cursor slots).outcome with
      | error failure =>
          rw [houtcome] at hread hfetches
          exact .broken slots.length hfetches (by simp [hread, settled, nothing, fail, failure?])
      | ok delivered =>
          rw [houtcome] at hread hfetches
          cases delivered with
          | true =>
              refine .delivered slots.length hfetches ?_ ?_
              · simp [hread, settled, failure?]
              · simp [hread, settled]
          | false =>
              refine .exhausted slots.length hfetches ?_ ?_ fun hsilent => ?_
              · simp [hread, settled, nothing, failure?]
              · simp [hread, settled, nothing]
              · rw [hread]
                exact hkept (silentAtEnd_recorded hsilent reader.cursor slots houtcome)

/-! ## The number of rows -/

/-- A step counts the row it reads. -/
theorem rows_of_step {byField : Bool} {reader : Reader (Recorded σ)} {dest : Destination τ}
    {reading : Reading (Recorded σ) τ} (hstep : Step byField reader dest reading)
    (h : reader.rows = reader.cursor.events.countP (·.isDelivery)) :
    reading.reader.rows = reading.reader.cursor.events.countP (·.isDelivery) := by
  cases hstep with
  | idle => exact h
  | refused => exact h
  | fetched hstart hrule hroutes slots hkept log =>
      rw [settled_cursor, Recorded.events_fetch, List.countP_append, ← h]
      cases (Cursor.fetch reader.cursor slots).outcome with
      | error failure => rfl
      | ok delivered => cases delivered <;> rfl

/-- The number of rows is that of the fetches that delivered. -/
theorem rows_eq_countP (cursor : σ) (naming : Naming) (dropUnmatched force : Bool)
    (calls : List (Call τ)) :
    let reader := (fresh (Recorded.ofCursor cursor) naming dropUnmatched force).after calls
    reader.rows = reader.cursor.events.countP (·.isDelivery) :=
  after_induction (P := fun reader => reader.rows = reader.cursor.events.countP (·.isDelivery))
    (fun byField dest reader => rows_of_step (step_readRow byField reader dest)) calls rfl

/-! ## The contract -/

/-- A reader that has failed keeps the contract: it tells its failure. -/
theorem SingleRowContract.of_failed {reader : Reader (Recorded σ)} {dest : Destination τ}
    (hopen : (reader.read dest).reader.phase ≠ .closed)
    (hfailed : (reader.read dest).reader.failure?.isSome)
    (hone : (reader.fetchesForFirst dest).length ≤ 1)
    (hfound : ¬ reader.ExhaustedAtFirst dest) : reader.SingleRowContract dest := by
  obtain ⟨failure, hfailure⟩ := Option.isSome_iff_exists.mp hfailed
  have htold : (reader.first dest).outcome = .error failure := by
    rw [first_outcome hopen, hfailure]
  exact
    { one_fetch := hone
      asked := by simp [hfailure]
      success := by simp [htold, hfailure]
      exhausted := fun h => absurd h hfound
      untouched := fun _ h => absurd h hfound
      failed := by simp [htold, hfailure]
      unclosed := by simp [hfailure] }

/-- A reader that gets its row keeps the contract. -/
theorem SingleRowContract.of_delivered {reader : Reader (Recorded σ)} {dest : Destination τ}
    (hopen : (reader.read dest).reader.phase ≠ .closed) {slots : Nat}
    (hfetches : reader.fetchesForFirst dest = [.fetched slots true])
    (hfine : (reader.read dest).reader.failure? = none)
    (hrows : (reader.read dest).reader.rows ≠ 0) : reader.SingleRowContract dest := by
  have htold := first_outcome hopen
  rw [hfine] at htold
  have hfound : ¬ reader.ExhaustedAtFirst dest := by simp [ExhaustedAtFirst, hfetches]
  refine
    { one_fetch := by simp [hfetches]
      asked := fun _ => Or.inl ⟨slots, hfetches⟩
      success := ?_
      exhausted := fun h => absurd h hfound
      untouched := fun _ h => absurd h hfound
      failed := by simp [hfine]
      unclosed := fun failure _ hclosing => by simp [htold, hclosing] }
  cases hclosing : reader.closingAfterFirst dest with
  | error failure => simp [htold, hclosing]
  | ok => simp [htold, hclosing, hrows, hfine, DeliversFirst, hfetches]

/-- A reader at the end of its result keeps the contract if it has read no row, or if
closing fails. -/
theorem SingleRowContract.of_exhausted {reader : Reader (Recorded σ)} {dest : Destination τ}
    (hopen : (reader.read dest).reader.phase ≠ .closed) {slots : Nat}
    (hfetches : reader.fetchesForFirst dest = [.fetched slots false])
    (hfine : (reader.read dest).reader.failure? = none)
    (hsame : Cursor.SilentAtEnd σ τ → (reader.read dest).dest = dest)
    (hrows : reader.closingAfterFirst dest = .ok () → (reader.read dest).reader.rows = 0) :
    reader.SingleRowContract dest := by
  have htold := first_outcome hopen
  rw [hfine] at htold
  refine
    { one_fetch := by simp [hfetches]
      asked := fun _ => Or.inr ⟨slots, hfetches⟩
      success := ?_
      exhausted := fun _ hclosing => by simp [htold, hclosing, hrows hclosing]
      untouched := fun hsilent _ => hsame hsilent
      failed := by simp [hfine]
      unclosed := fun failure _ hclosing => by simp [htold, hclosing] }
  cases hclosing : reader.closingAfterFirst dest with
  | error failure => simp [htold, hclosing]
  | ok => simp [htold, hclosing, hrows hclosing, DeliversFirst, hfetches, failFor]

/-- The contract is broken by an exhausted reader that has read rows before, and only by
it. -/
theorem OnlyFetched.keeps_contract_iff {reader : Reader (Recorded σ)}
    (h : reader.OnlyFetched) (dest : Destination τ) :
    reader.SingleRowContract dest ↔
      ¬ (reader.rows ≠ 0 ∧ reader.ExhaustedAtFirst dest ∧
        reader.closingAfterFirst dest = .ok ()) := by
  have hopen := (h.readRow (dest.routingForced reader.force).isByField dest).phase_ne
  constructor
  · rintro hcontract ⟨hrows, ⟨slots, hfetches⟩, hclosing⟩
    have hnone := hcontract.exhausted ⟨slots, hfetches⟩ hclosing
    cases attempt_of_open h.phase_ne dest with
    | unasked hf => simp [hf] at hfetches
    | delivered _ hf => simp [hf] at hfetches
    | broken _ hf => simp [hf] at hfetches
    | exhausted _ _ hfine hsame =>
        -- success is claimed, where the contract asks for a failure
        rw [first_outcome hopen, hfine, hclosing, hsame, if_neg hrows] at hnone
        cases hnone
  · intro hkept
    cases attempt_of_open h.phase_ne dest with
    | unasked hf hfailed =>
        exact .of_failed hopen hfailed (by simp [hf]) (by simp [ExhaustedAtFirst, hf])
    | delivered slots hf hfine hrows => exact .of_delivered hopen hf hfine (by omega)
    | broken slots hf hfailed =>
        exact .of_failed hopen hfailed (by simp [hf]) (by simp [ExhaustedAtFirst, hf])
    | exhausted slots hf hfine hrows hsame =>
        refine .of_exhausted hopen hf hfine hsame fun hclosing => ?_
        rw [hrows]
        exact Decidable.byContradiction fun hne => hkept ⟨hne, ⟨slots, hf⟩, hclosing⟩

/-- **When a single row is read as it should.**  However a reader was called before,
reading a single row keeps the contract exactly unless a row was delivered before, the
result is exhausted now, and closing succeeds. -/
theorem singleRowContract_iff (cursor : σ) (naming : Naming) (dropUnmatched force : Bool)
    (calls : List (Call τ)) (dest : Destination τ) :
    let reader := (fresh (Recorded.ofCursor cursor) naming dropUnmatched force).after calls
    reader.SingleRowContract dest ↔
      ¬ ((∃ event ∈ reader.cursor.events, event.isDelivery = true) ∧
        reader.ExhaustedAtFirst dest ∧ reader.closingAfterFirst dest = .ok ()) := by
  intro reader
  have hrows : reader.rows = reader.cursor.events.countP (·.isDelivery) :=
    rows_eq_countP cursor naming dropUnmatched force calls
  have hopen : reader.OnlyFetched :=
    (OnlyFetched.fresh cursor naming dropUnmatched force).after calls
  rw [hopen.keeps_contract_iff dest, hrows, ← Nat.pos_iff_ne_zero, List.countP_pos_iff]

/-- A reader whose only row was read claims to have read another one, into a destination
that it left as it was. -/
theorem not_singleRowContract_behind_last :
    let cursor := Feed.ofItems [{ name := "flag" }] [.ok [.bool (some true)]]
    let flag : Destination Scalar := .column ⟨.bool, false⟩
    let reader := (fresh (Recorded.ofCursor cursor) .asWritten false false).after
      [.column flag]
    (reader.first flag).outcome = .ok () ∧ (reader.first flag).result = flag ∧
      ¬ reader.SingleRowContract flag := by
  refine ⟨rfl, rfl, fun hcontract => ?_⟩
  have hnone := hcontract.exhausted ⟨1, rfl⟩ rfl
  cases hnone

end Reader

end RowBind
