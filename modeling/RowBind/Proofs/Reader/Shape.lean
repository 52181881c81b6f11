import RowBind.Proofs.Reader.Mismatch

/-!
# What the shape of a destination decides

A fresh reader is asked for a row, for a single row or for a list.  In each case it looks at
the columns and at the type of the destination first: the cursor is asked for rows exactly
if the destination suits the columns, and otherwise the reader fails for the cause for which
it does not, with nothing read and nothing changed.

For a list that is looked at in two parts, the type of the elements first and the fields with
the first row.  Both come to the same as for a single row, but for the words in which
elements without fields are refused that were to be read by field.

Main statements: `RowByShape.of_unasked`, `FirstByShape.of_unasked` and
`ListByShape.of_unasked`, the three cases; and `decided_by_shape`, all of it for any result.
-/

namespace RowBind.Reader

variable {σ τ ε : Type} [ColumnFamily τ]

/-! ## Fresh readers -/

/-- Nothing was asked of the reader so far, and nothing of its cursor. -/
structure Unasked (reader : Reader (Recorded σ)) : Prop where
  phase_eq : reader.phase = .fresh
  rows_eq : reader.rows = 0
  events_eq : reader.cursor.events = []

theorem Unasked.fresh (cursor : σ) (naming : Naming) (dropUnmatched force : Bool) :
    (Reader.fresh (Recorded.ofCursor cursor) naming dropUnmatched force).Unasked :=
  ⟨rfl, rfl, rfl⟩

theorem Unasked.routes?_eq {reader : Reader (Recorded σ)} (h : reader.Unasked) :
    reader.routes? = none := by
  rw [routes?, h.phase_eq]

theorem Unasked.live {reader : Reader (Recorded σ)} (h : reader.Unasked) :
    reader.start.isSome := by
  rw [start, h.phase_eq]
  rfl

/-- A bare cause is not what failed while something was being done. -/
theorem of_ne_within (cause : Cause) (failure : Failure) (activity : Activity) :
    Failure.of cause ≠ failure.within activity := by
  simp [Failure.of, Failure.within]

/-- A fetch that fails is not told as a bare cause. -/
theorem failure?_settled_ne {reader : Reader σ} (h : reader.failure? = none)
    (outcome : Outcome Bool) (dest : Destination τ) (log : Log) (cause : Cause) :
    (settled reader outcome dest log).reader.failure? ≠ some (.of cause) := by
  unfold settled
  split
  · exact fun hfailed => Option.some_ne_none _ (hfailed.symm.trans h)
  · exact fun hfailed => Option.some_ne_none _ (hfailed.symm.trans h)
  · exact fun hfailed => of_ne_within _ _ _ (Option.some.inj hfailed).symm

/-- A reading that is settled and can be followed by others has counted its row, if there was
one, and has changed nothing else about the reader. -/
theorem eq_of_settled {reader : Reader σ} {outcome : Outcome Bool} {dest : Destination τ}
    {log : Log}
    (h : (settled reader outcome dest log).reader.start.isSome) :
    ∃ rows, (settled reader outcome dest log).reader = { reader with rows } := by
  cases outcome with
  | error failure => simp [settled, nothing, fail, start] at h
  | ok delivered => cases delivered <;> exact ⟨_, rfl⟩

variable [Cursor σ] {byField : Bool} {dest : Destination τ}

/-! ## A single row -/

/-- A row that nothing speaks against does not fail for a bare cause. -/
theorem failure?_readRow_ne {reader : Reader σ} (hlive : reader.start.isSome)
    (h : reader.objection? byField dest = none) (cause : Cause) :
    (reader.readRow byField dest).reader.failure? ≠ some (.of cause) := by
  rw [readRow_asked hlive h]
  refine failure?_settled_ne ?_ _ _ _ cause
  exact (prepared_kept byField reader dest).2.2

/-- A row that something speaks against changes neither the number of rows nor the
destination. -/
theorem readRow_kept_of_objection {reader : Reader σ} (hlive : reader.start.isSome)
    {failure : Failure} (h : reader.objection? byField dest = some failure) :
    (reader.readRow byField dest).reader.rows = reader.rows ∧
      (reader.readRow byField dest).dest = dest := by
  rw [readRow_objected hlive h]
  exact ⟨(prepared_kept byField reader dest).2.1, rfl⟩

/-- What is to be expected of a reader that is asked for its first row. -/
structure RowByShape (byField : Bool) (reader : Reader (Recorded σ)) (dest : Destination τ) :
    Prop where
  /-- The cursor is asked for the row exactly if the destination suits. -/
  asked_iff : (reader.readRow byField dest).reader.cursor.events ≠ [] ↔
    reader.Suits byField dest
  /-- The destination does not suit exactly if there is a cause. -/
  unsuited_iff : ¬ reader.Suits byField dest ↔ ∃ cause, reader.Mismatch byField dest cause
  /-- The reader fails for that cause. -/
  failed_iff : ∀ cause, (reader.readRow byField dest).reader.failure? = some (.of cause) ↔
    reader.Mismatch byField dest cause
  /-- Nothing is read then: the cursor is left alone, and so is the destination. -/
  unread : ∀ cause, reader.Mismatch byField dest cause →
    (reader.readRow byField dest).delivered = false ∧
      (reader.readRow byField dest).reader.cursor.events = [] ∧
      (reader.readRow byField dest).reader.rows = 0 ∧
      (reader.readRow byField dest).dest = dest

/-- The first row is decided by the shape of the destination. -/
theorem RowByShape.of_unasked {reader : Reader (Recorded σ)} (h : reader.Unasked)
    (byField : Bool) (dest : Destination τ) : RowByShape byField reader dest := by
  have hunread : ∀ cause, reader.Mismatch byField dest cause →
      (reader.readRow byField dest).delivered = false ∧
        (reader.readRow byField dest).reader.failure? = some (.of cause) ∧
        (reader.readRow byField dest).reader.cursor.events = [] ∧
        (reader.readRow byField dest).reader.rows = 0 ∧
        (reader.readRow byField dest).dest = dest := by
    intro cause hmismatch
    have hobjection := (objection?_eq_some_iff h.routes?_eq).mpr ⟨cause, rfl, hmismatch⟩
    obtain ⟨hnone, hfailed, hevents⟩ := readRow_of_objection h.live hobjection
    obtain ⟨hrows, hdest⟩ := readRow_kept_of_objection h.live hobjection
    exact ⟨hnone, hfailed, hevents.trans h.events_eq, hrows.trans h.rows_eq, hdest⟩
  refine
    { asked_iff := ⟨fun hasked => ?_, fun hsuits => ?_⟩
      unsuited_iff := not_suits_iff h.routes?_eq
      failed_iff := fun cause => ⟨fun hfailed => ?_, fun hmismatch => (hunread cause hmismatch).2.1⟩
      unread := fun cause hmismatch => ?_ }
  · refine Classical.byContradiction fun hunsuited => hasked ?_
    obtain ⟨cause, hmismatch⟩ := (not_suits_iff h.routes?_eq).mp hunsuited
    exact (hunread cause hmismatch).2.2.1
  · obtain ⟨event, -, hevents⟩ :=
      events_readRow_of_no_objection h.live ((objection?_eq_none_iff h.routes?_eq).mpr hsuits)
    simp [hevents]
  · cases hobjection : reader.objection? byField dest with
    | none => exact absurd hfailed (failure?_readRow_ne h.live hobjection cause)
    | some failure =>
        obtain ⟨-, hsame, -⟩ := readRow_of_objection h.live hobjection
        rw [hfailed, Option.some.injEq] at hsame
        obtain ⟨other, hother, hmismatch⟩ := (objection?_eq_some_iff h.routes?_eq).mp
          (hsame ▸ hobjection)
        have hcause : cause = other := congrArg Failure.cause hother
        exact hcause ▸ hmismatch
  · obtain ⟨hnone, -, hrest⟩ := hunread cause hmismatch
    exact ⟨hnone, hrest⟩

/-- What is to be expected of a reader that is asked for a single row and nothing else. -/
structure FirstByShape (reader : Reader (Recorded σ)) (dest : Destination τ) : Prop where
  /-- The cursor is asked for the row exactly if the destination suits. -/
  asked_iff : reader.fetchesForFirst dest ≠ [] ↔
    reader.Suits (dest.routingForced reader.force).isByField dest
  /-- Reading fails for the cause for which the destination does not suit; apart from that
  there may be no row. -/
  failed_iff : ∀ cause, cause ≠ .noRow →
    ((reader.first dest).outcome = .error (.of cause) ↔
      reader.Mismatch (dest.routingForced reader.force).isByField dest cause)
  /-- Nothing is read then. -/
  unread : ∀ cause, reader.Mismatch (dest.routingForced reader.force).isByField dest cause →
    reader.fetchesForFirst dest = [] ∧ (reader.first dest).reader.rows = 0 ∧
      (reader.first dest).result = dest

/-- A bare cause that comes out in the end is the failure of the reader. -/
theorem close_outcome_of_iff {reader : Reader σ} {cause : Cause} :
    reader.close.outcome = .error (.of cause) ↔ reader.failure? = some (.of cause) := by
  by_cases hclosed : reader.phase = .closed
  · simp [close_closed hclosed, failure?, hclosed]
  · rw [close_outcome hclosed]
    cases reader.failure? with
    | some failure => simp
    | none =>
        cases (Cursor.close reader.cursor).1 with
        | error failure => simpa using (of_ne_within cause failure .closing).symm
        | ok => simp

/-- So is what a single row comes to, unless it is that there is no row. -/
theorem first_outcome_of_iff {reader : Reader σ} {cause : Cause} (hcause : cause ≠ .noRow) :
    (reader.first dest).outcome = .error (.of cause) ↔
      (reader.read dest).reader.failure? = some (.of cause) := by
  rw [← close_outcome_of_iff]
  simp only [first]
  cases (reader.read dest).reader.close.outcome with
  | error failure => rfl
  | ok =>
      have hnone : Failure.of .noRow ≠ Failure.of cause := fun heq =>
        hcause (congrArg Failure.cause heq).symm
      dsimp only
      split <;> simp [failFor, hnone]

/-- A single row is decided by the shape of the destination. -/
theorem FirstByShape.of_unasked {reader : Reader (Recorded σ)} (h : reader.Unasked)
    (dest : Destination τ) : reader.FirstByShape dest := by
  have hrow := RowByShape.of_unasked h (dest.routingForced reader.force).isByField dest
  have hfetches : reader.fetchesForFirst dest = (reader.read dest).reader.cursor.events := by
    rw [fetchesForFirst, h.events_eq, List.length_nil, List.drop_zero]
  refine
    { asked_iff := by rw [hfetches]; exact hrow.asked_iff
      failed_iff := fun cause hcause => ?_
      unread := fun cause hmismatch => ?_ }
  · rw [first_outcome_of_iff hcause]
    exact hrow.failed_iff cause
  · obtain ⟨-, hevents, hrows, hdest⟩ := hrow.unread cause hmismatch
    exact ⟨hfetches.trans hevents, (close_rows _).trans hrows, hdest⟩

/-! ## A list -/

/-- A reader that is prepared for a row by field knows its routes. -/
theorem prepared_phase (reader : Reader σ) (dest : Destination τ) :
    (reader.prepared true dest).1.phase = .reading (reader.routesFor true dest) := by
  unfold prepared
  cases hroutes : reader.routes? with
  | none => rfl
  | some routes => simp [routesFor, hroutes]

/-- What nothing spoke against before a row, nothing speaks against behind it: the columns
are the same, and the routes are known. -/
theorem objection?_prepared {reader : Reader σ} (h : reader.objection? byField dest = none)
    {cursor : σ} (hcolumns : Cursor.columns cursor = Cursor.columns reader.cursor)
    (rows : Nat) :
    objection? byField { (reader.prepared byField dest).1 with cursor, rows } dest = none := by
  cases byField with
  | false => simpa [objection?, hcolumns] using h
  | true =>
      have hknown : routes? { (reader.prepared true dest).1 with cursor, rows } =
          reader.routesFor true dest := by
        rw [routes?, prepared_phase]
      simp [objection?, hknown, routesFor, isRecord_of_objection? h]

/-- A row that nothing speaks against leaves a reader that has failed, or one against whose
next row nothing speaks either. -/
theorem objection?_readRow {reader : Reader σ} (hlive : reader.start.isSome)
    (h : reader.objection? byField dest = none)
    (hgoes : (reader.readRow byField dest).reader.start.isSome) :
    (reader.readRow byField dest).reader.objection? byField dest = none := by
  rw [readRow_asked hlive h] at hgoes ⊢
  obtain ⟨rows, heq⟩ := eq_of_settled hgoes
  dsimp only at heq ⊢
  rw [heq]
  exact objection?_prepared h (Cursor.columns_fetch reader.cursor _) rows

/-- Rows that nothing speaks against do not fail for a bare cause. -/
theorem failure?_readMany_ne [FiniteCursor σ] {reader : Reader σ} (hlive : reader.start.isSome)
    (h : reader.objection? byField dest = none) (limit : Option Nat) (cause : Cause) :
    (reader.readMany byField limit dest).reader.failure? ≠ some (.of cause) := by
  -- the reader has not failed for a bare cause, and if it goes on, nothing speaks against that
  refine (readMany_induction (P := fun after : Reader σ =>
    after.failure? ≠ some (.of cause) ∧
      (after.start.isSome → after.objection? byField dest = none)) ?_ limit ?_).1
  · rintro after ⟨hfine, hgoes⟩
    cases hstart : after.start with
    | none =>
        rw [readRow_idle hstart]
        exact ⟨hfine, hgoes⟩
    | some started =>
        have hafter : after.start.isSome := by simp [hstart]
        exact ⟨failure?_readRow_ne hafter (hgoes hafter) cause,
          objection?_readRow hafter (hgoes hafter)⟩
  · refine ⟨?_, fun _ => h⟩
    cases hphase : reader.phase <;> simp_all [start, failure?]

/-- What is to be expected of a reader that is asked for a list and nothing else. -/
structure ListByShape [FiniteCursor σ] (reader : Reader (Recorded σ))
    (element : ElementType τ ε) (list : List ε) : Prop where
  /-- The cursor is asked for rows exactly if the elements suit. -/
  asked_iff : reader.fetchesForAll element list ≠ [] ↔
    reader.Suits (element.blank.routingForced reader.force).isByField element.blank
  /-- Reading fails for the cause for which the elements do not suit. -/
  failed_iff : ∀ cause, (reader.allAs element list).outcome = .error (.of cause) ↔
    ∃ found, reader.Mismatch (element.blank.routingForced reader.force).isByField
      element.blank found ∧ cause = found.ofList
  /-- Nothing is read then. -/
  unread : ∀ cause,
    reader.Mismatch (element.blank.routingForced reader.force).isByField element.blank cause →
      reader.fetchesForAll element list = [] ∧ (reader.allAs element list).reader.rows = 0

/-- The elements of a list are refused as such for a cause for which they do not suit. -/
theorem mismatch_of_refusal? {reader : Reader σ} {blank : Destination τ} {cause : Cause}
    (h : reader.refusal? blank = some cause) :
    ∃ found, reader.Mismatch (blank.routingForced reader.force).isByField blank found ∧
      cause = found.ofList := by
  have hcount := columnNames_length reader.cursor
  simp only [refusal?] at h
  split at h
  · next hforced =>
    obtain ⟨hforce, hscalar⟩ : reader.force = true ∧ blank.isRecord = false := by
      simpa using hforced
    rw [hforce]
    exact ⟨_, .notRecord hscalar, (Option.some.inj h).symm⟩
  · split at h
    · next hmany =>
      obtain ⟨hby, hmany⟩ : (blank.routingForced reader.force).isByField = false ∧
          1 < (Cursor.columns reader.cursor).length := by simpa using hmany
      rw [hby]
      refine ⟨_, .tooManyColumns (hcount ▸ hmany), ?_⟩
      rw [hcount]
      exact (Option.some.inj h).symm
    · next hmany =>
      split at h
      · next hvalue =>
        obtain ⟨hby, hvalue⟩ : (blank.routingForced reader.force).isByField = false ∧
            blank.takesValue = false := by simpa using hvalue
        rw [hby]
        refine ⟨_, .notDecodable ?_ hvalue, (Option.some.inj h).symm⟩
        simpa [hby, hcount] using hmany
      · cases h

/-- A list whose elements do not suit is not read: for whatever cause that is, the cursor is
left alone, and the cause is what reading comes to. -/
theorem collect_of_mismatch [FiniteCursor σ] {reader : Reader (Recorded σ)}
    (h : reader.Unasked) {element : ElementType τ ε} {cause : Cause}
    (hmismatch : reader.Mismatch (element.blank.routingForced reader.force).isByField
      element.blank cause) (list : List ε) :
    (reader.allAs element list).outcome = .error (.of cause.ofList) ∧
      reader.fetchesForAll element list = [] ∧ (reader.allAs element list).reader.rows = 0 := by
  have hobjection := (objection?_eq_some_iff h.routes?_eq).mpr ⟨cause, rfl, hmismatch⟩
  cases hshape : reader.refusal? element.blank with
  | some refused =>
      obtain ⟨found, hfound, rfl⟩ := mismatch_of_refusal? hshape
      have hcollect := collect_of_refused h.live hshape list
      rw [hmismatch.unique h.routes?_eq hfound]
      refine ⟨allAs_outcome_of_failure? (by rw [hcollect]; rfl), ?_, (close_rows _).trans ?_⟩
      · rw [fetchesForAll, hcollect]
        exact List.drop_length
      · rw [hcollect]
        exact h.rows_eq
  | none =>
      obtain ⟨-, hunread, hfailed⟩ := collect_of_objection h.live hshape hobjection list
      have hwords : cause.ofList = cause :=
        Destination.Mismatch.ofList_eq hmismatch (isRecord_of_refusal? hshape)
      rw [hwords]
      refine ⟨hfailed, hunread, (close_rows _).trans ?_⟩
      have hstarted : objection? (element.blank.routingForced reader.force).isByField
          { reader with phase := .reading reader.routes? } element.blank =
            some (.of cause) := hobjection
      have hnone := (readRow_of_objection rfl hstarted).1
      rw [collect_of_accepted h.live hshape, readMany_step _ (by simp)]
      simp only [hnone]
      exact (readRow_kept_of_objection rfl hstarted).1.trans h.rows_eq

/-- A list whose elements suit is read, and does not fail for a bare cause. -/
theorem collect_of_suits [FiniteCursor σ] {reader : Reader (Recorded σ)} (h : reader.Unasked)
    {element : ElementType τ ε}
    (hsuits : reader.Suits (element.blank.routingForced reader.force).isByField element.blank)
    (list : List ε) :
    reader.fetchesForAll element list ≠ [] ∧
      ∀ cause, (reader.allAs element list).outcome ≠ .error (.of cause) := by
  have hshape : reader.refusal? element.blank = none := refusal?_of_suits hsuits
  have hfine : objection? (element.blank.routingForced reader.force).isByField
      { reader with phase := .reading reader.routes? } element.blank = none :=
    (objection?_eq_none_iff h.routes?_eq).mpr hsuits
  have hcollect := collect_of_accepted h.live hshape list
  refine ⟨fun hunread => ?_, fun cause => ?_⟩
  · obtain ⟨event, -, hasked⟩ := readMany_of_no_objection rfl hfine
    rw [fetchesForAll, hcollect, h.events_eq, List.length_nil, List.drop_zero] at hunread
    dsimp only at hunread
    rw [hunread, h.events_eq] at hasked
    exact List.not_mem_nil (hasked.subset List.mem_cons_self)
  · intro hfailed
    have hcause := close_outcome_of_iff.mp hfailed
    rw [hcollect] at hcause
    exact failure?_readMany_ne rfl hfine none cause hcause

/-- A list is decided by the shape of its elements. -/
theorem ListByShape.of_unasked [FiniteCursor σ] {reader : Reader (Recorded σ)}
    (h : reader.Unasked) (element : ElementType τ ε) (list : List ε) :
    reader.ListByShape element list := by
  refine
    { asked_iff := ⟨fun hasked => ?_, fun hsuits => (collect_of_suits h hsuits list).1⟩
      failed_iff := fun cause => ⟨fun hfailed => ?_, ?_⟩
      unread := fun cause hmismatch => (collect_of_mismatch h hmismatch list).2 }
  · refine Classical.byContradiction fun hunsuited => hasked ?_
    obtain ⟨cause, hmismatch⟩ := (not_suits_iff h.routes?_eq).mp hunsuited
    exact (collect_of_mismatch h hmismatch list).2.1
  · have hunsuited : ¬ reader.Suits (element.blank.routingForced reader.force).isByField
        element.blank := fun hsuits => (collect_of_suits h hsuits list).2 cause hfailed
    obtain ⟨found, hmismatch⟩ := (not_suits_iff h.routes?_eq).mp hunsuited
    have htold := (collect_of_mismatch h hmismatch list).1
    rw [hfailed, Except.error.injEq] at htold
    exact ⟨found, hmismatch, congrArg Failure.cause htold⟩
  · rintro ⟨found, hmismatch, rfl⟩
    exact (collect_of_mismatch h hmismatch list).1

/-! ## Any result -/

/-- What is to be expected of a reader of which nothing was asked, whatever it is asked
for. -/
structure DecidedByShape (τ : Type) [ColumnFamily τ] (reader : Reader (Recorded σ)) : Prop where
  /-- A row is read as a whole or by field, if the destination suits that. -/
  row : ∀ (byField : Bool) (dest : Destination τ), RowByShape byField reader dest
  /-- A single row is read in the way that the type of the destination tells. -/
  first : ∀ dest : Destination τ, reader.FirstByShape dest
  /-- A list is read in the way that the type of the elements tells. -/
  list : ∀ {ε : Type} [FiniteCursor σ] (element : ElementType τ ε) (list : List ε),
    reader.ListByShape element list
  /-- For one type, a list fails for a cause exactly if a single row does. -/
  alike : ∀ {ε : Type} [FiniteCursor σ] (dest : Destination τ) (element : ElementType τ ε)
    (list : List ε), dest.SameType element.blank → ∀ cause,
      (reader.allAs element list).outcome = .error (.of cause) ↔
        ∃ found, found ≠ .noRow ∧ (reader.first dest).outcome = .error (.of found) ∧
          cause = found.ofList

/-- No type is unsuited because a row is missing. -/
theorem Mismatch.ne_noRow {reader : Reader σ} {cause : Cause}
    (h : reader.Mismatch byField dest cause) : cause ≠ .noRow := by
  cases h <;> simp

/-- **Shape decides before anything is read.**  Whatever a fresh reader is asked for, the
cursor is asked for rows exactly if the destination suits its columns. -/
theorem decided_by_shape (cursor : σ) (naming : Naming) (dropUnmatched force : Bool) :
    DecidedByShape τ (fresh (Recorded.ofCursor cursor) naming dropUnmatched force) := by
  have hnew := Unasked.fresh cursor naming dropUnmatched force
  refine
    { row := fun byField dest => RowByShape.of_unasked hnew byField dest
      first := fun dest => FirstByShape.of_unasked hnew dest
      list := fun element list => ListByShape.of_unasked hnew element list
      alike := fun dest element list hsame cause => ?_ }
  have hfirst := (FirstByShape.of_unasked hnew dest).failed_iff
  rw [(ListByShape.of_unasked hnew element list).failed_iff cause, ← hsame.routingForced_eq]
  constructor
  · rintro ⟨found, hfound, htold⟩
    have hother := hsame.symm.mismatch hfound
    exact ⟨found, hfound.ne_noRow, (hfirst found hfound.ne_noRow).mpr hother, htold⟩
  · rintro ⟨found, hrow, hfound, htold⟩
    exact ⟨found, hsame.mismatch ((hfirst found hrow).mp hfound), htold⟩

end RowBind.Reader
