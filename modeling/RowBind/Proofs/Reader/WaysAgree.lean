import RowBind.Proofs.Reader.Shape
import RowBind.Reader.OneByOne

/-!
# The ways of reading records agree

Records can be read in four ways: all of them into a list, one after the other as they are
asked for, by a caller that reads each of them on its own, or only the first one.  Each way
has its own checks in front of the rows, its own loop and its own end.

For records that are read by field the first three come to the same: the same records, the same
number of rows and the same failure in the end, whether that comes up before the first row, at
some row or when the cursor is closed.  The first record alone is that of the list, and it is
missing exactly if the list is empty and nothing failed.

The way of a list starts the reader before the first row, the others with it; that makes no
difference to the rows.

Main statements: `records_started`, which says so; `first_eq`, what the first row comes to; and
`ways_agree`, all of it for every result.
-/

namespace RowBind.Reader

variable {σ τ ε : Type} [Cursor σ] [ColumnFamily τ] {reader last : Reader σ}
  {blank : Destination τ} {dests : List (Destination τ)}

/-! ## Rows and failures -/

/-- A step counts the row that is delivered; a reader that delivers one has not failed. -/
theorem Step.delivered {byField : Bool} {dest : Destination τ} {reading : Reading σ τ}
    (hstep : Step byField reader dest reading) (h : reading.delivered = true) :
    reading.reader.rows = reader.rows + 1 ∧ reading.reader.failure? = none := by
  cases hstep with
  | idle => cases h
  | refused => cases h
  | fetched hstart hrule hroutes slots hkept log =>
      rw [settled_delivered h]
      exact ⟨rfl, rfl⟩

/-- A step that delivers no row counts none. -/
theorem Step.undelivered {byField : Bool} {dest : Destination τ} {reading : Reading σ τ}
    (hstep : Step byField reader dest reading) (h : reading.delivered = false) :
    reading.reader.rows = reader.rows := by
  cases hstep with
  | idle => rfl
  | refused => rfl
  | fetched hstart hrule hroutes slots hkept log =>
      unfold settled at h ⊢
      split at h
      · cases h
      · rfl
      · rfl

/-- The rows that a caller reads are counted. -/
theorem ReadsEach.rows_eq (h : ReadsEach blank reader dests last) :
    last.rows = reader.rows + dests.length := by
  induction h with
  | stop hnone => exact (step_readFields _ blank).undelivered hnone
  | more hsome hmore ih =>
      rw [ih, ((step_readFields _ blank).delivered hsome).1, List.length_cons]
      omega

/-- A reader of which nothing was asked does not fail for a row that is missing. -/
theorem failure?_readRow_ne_noRow (hlive : reader.start.isSome) (hroutes : reader.routes? = none)
    (byField : Bool) (dest : Destination τ) :
    (reader.readRow byField dest).reader.failure? ≠ some (.of .noRow) := by
  cases hobjection : reader.objection? byField dest with
  | none => exact failure?_readRow_ne hlive hobjection .noRow
  | some failure =>
      obtain ⟨cause, rfl, hmismatch⟩ := (objection?_eq_some_iff hroutes).mp hobjection
      rw [readRow_objected hlive hobjection]
      intro hfailed
      exact hmismatch.ne_noRow (congrArg Failure.cause (Option.some.inj hfailed))

/-! ## The start of a list -/

/-- A reader that is started already reads the same row. -/
theorem readFields_started (hlive : reader.start.isSome) (dest : Destination τ) :
    ({ reader with phase := .reading reader.routes? } : Reader σ).readFields dest =
      reader.readFields dest := by
  have hagain : ({ reader with phase := .reading reader.routes? } : Reader σ).start =
      some { reader with phase := .reading reader.routes? } := rfl
  rw [readFields, hagain, readFields, start_eq hlive]

/-- So it reads the same records. -/
theorem records_started [FiniteCursor σ] (hlive : reader.start.isSome) (blank : Destination τ) :
    ({ reader with phase := .reading reader.routes? } : Reader σ).records none blank =
      reader.records none blank := by
  have hsame := readFields_started hlive blank
  cases h : (reader.readFields blank).delivered with
  | true => rw [records_delivered h, records_delivered (hsame ▸ h), hsame]
  | false => rw [records_undelivered h, records_undelivered (hsame ▸ h), hsame]

/-- The elements of a list are the records, if they are read by field. -/
theorem collect_byField [FiniteCursor σ] {element : ElementType τ ε} (hlive : reader.start.isSome)
    (hfree : reader.force = false) (hrouting : element.blank.routing = .byField) (list : List ε) :
    reader.collect element list =
      let rows := reader.records none element.blank
      { elements := rows.dests.map element.ofTarget, reader := rows.reader, log := rows.log } := by
  have hby : (element.blank.routingForced reader.force).isByField = true := by
    rw [hfree, Destination.routingForced, if_neg Bool.false_ne_true, hrouting]
    rfl
  have hshape : reader.refusal? element.blank = none := by
    simp only [refusal?, hby]
    simp [hfree]
  rw [collect_of_accepted hlive hshape, hby, ← records_started hlive]
  rfl

/-! ## The first record -/

/-- A record is read by field, unless it is forced otherwise. -/
theorem read_byField (hfree : reader.force = false) (hrouting : blank.routing = .byField) :
    reader.read blank = reader.readFields blank := by
  rw [read, hfree, Destination.routingForced, if_neg Bool.false_ne_true, hrouting]
  rfl

/-- **What the first record comes to**, if there was none: it is what closing the reader comes
to, but that a row is missing. -/
theorem first_eq (hfree : reader.force = false) (hrouting : blank.routing = .byField)
    (hnone : (reader.readFields blank).delivered = false) (hnew : reader.rows = 0) :
    (reader.first blank).outcome =
      match (reader.readFields blank).reader.close.outcome with
      | .ok () => failFor .noRow
      | .error failure => .error failure := by
  have hrows : (reader.readFields blank).reader.close.reader.rows = 0 :=
    (close_rows _).trans (((step_readFields reader blank).undelivered hnone).trans hnew)
  cases hclose : (reader.readFields blank).reader.close.outcome with
  | ok => simp only [first, read_byField hfree hrouting, hclose, hrows, if_true]
  | error failure => simp only [first, read_byField hfree hrouting, hclose]

/-- If there was one, it is read where the cursor can be closed. -/
theorem first_of_delivered (hfree : reader.force = false) (hrouting : blank.routing = .byField)
    (hopen : reader.phase ≠ .closed) (hsome : (reader.readFields blank).delivered = true) :
    (reader.first blank).outcome =
      match reader.closingAfterFirst blank with
      | .ok () => .ok ()
      | .error failure => .error (failure.within .closing) := by
  have hstep := step_readFields reader blank
  obtain ⟨hrows, hfine⟩ := hstep.delivered hsome
  rw [← read_byField hfree hrouting] at hrows hfine hstep
  rw [first_outcome (hstep.phase_ne hopen), hfine, hrows]
  cases reader.closingAfterFirst blank <;> rfl

/-- What is to be expected of the first record, by the records that there are and the reader
after them. -/
structure FirstAgrees (reader : Reader σ) (blank : Destination τ) (dests : List (Destination τ))
    (last : Reader σ) : Prop where
  /-- It is the first one of them, and all is well if the cursor can be closed behind it. -/
  found : ∀ {dest : Destination τ} {others : List (Destination τ)}, dests = dest :: others →
    (reader.first blank).result = dest ∧
      ((reader.first blank).outcome = .ok () ↔ reader.closingAfterFirst blank = .ok ())
  /-- It is missing exactly if there are none and nothing failed. -/
  missing : (reader.first blank).outcome = failFor .noRow ↔
    dests = [] ∧ last.close.outcome = .ok ()
  /-- If there are none for a failure, that is told. -/
  failed : ∀ {failure : Failure}, dests = [] → last.close.outcome = .error failure →
    (reader.first blank).outcome = .error failure

/-- **The first record agrees with all of them**, for a reader of which nothing was asked. -/
theorem firstAgrees_records [FiniteCursor σ] (hfree : reader.force = false)
    (hrouting : blank.routing = .byField) (hphase : reader.phase = .fresh)
    (hnew : reader.rows = 0) :
    FirstAgrees reader blank (reader.records none blank).dests
      (reader.records none blank).reader := by
  have hopen : reader.phase ≠ .closed := by simp [hphase]
  have hlive : reader.start.isSome := by simp [start, hphase]
  have hroutes : reader.routes? = none := by simp [routes?, hphase]
  cases hread : (reader.readFields blank).delivered with
  | true =>
      have houtcome := first_of_delivered hfree hrouting hopen hread
      rw [records_delivered hread]
      refine { found := ?_, missing := ⟨?_, ?_⟩, failed := ?_ }
      · intro dest others heq
        cases heq
        refine ⟨congrArg Reading.dest (read_byField hfree hrouting), ?_⟩
        rw [houtcome]
        cases reader.closingAfterFirst blank <;> simp
      · intro hmissing
        rw [houtcome] at hmissing
        cases hclosing : reader.closingAfterFirst blank with
        | ok => simp [hclosing, failFor] at hmissing
        | error failure =>
            rw [hclosing] at hmissing
            exact absurd (Except.error.inj hmissing).symm (of_ne_within _ _ _)
      · intro hnone
        cases hnone.1
      · intro failure hnone
        cases hnone
  | false =>
      have houtcome := first_eq hfree hrouting hread hnew
      have hfailed := failure?_readRow_ne_noRow hlive hroutes true blank
      rw [records_undelivered hread]
      refine { found := ?_, missing := ⟨?_, ?_⟩, failed := ?_ }
      · intro dest others heq
        cases heq
      · intro hmissing
        refine ⟨rfl, ?_⟩
        cases hclosed : (reader.readFields blank).reader.close.outcome with
        | ok => rfl
        | error failure =>
            rw [houtcome, hclosed] at hmissing
            have heq : failure = .of .noRow := Except.error.inj hmissing
            exact absurd (close_outcome_of_iff.mp (heq ▸ hclosed)) hfailed
      · intro hclosed
        rw [houtcome, hclosed.2]
      · intro failure _ hclosed
        rw [houtcome, hclosed]

/-! ## All ways -/

/-- What is to be expected of the ways of reading records: a list of records and a reader
after that to which each of them comes. -/
structure WaysAgree [FiniteCursor σ] (reader : Reader σ) (element : ElementType τ ε)
    (list : List ε) (dests : List (Destination τ)) (last : Reader σ) : Prop where
  /-- A caller that reads records on its own comes to an end with these. -/
  looped : ∀ {others : List (Destination τ)} {after : Reader σ},
    ReadsEach element.blank reader others after ↔ others = dests ∧ after = last
  /-- So do the records that are asked for one after the other. -/
  collected : ({ reader, blank := element.blank } : Records σ τ).collect.dests = dests ∧
    ({ reader, blank := element.blank } : Records σ τ).collect.reader = last
  /-- A list holds the elements made of them, and its end is that of the reader when it is
  closed. -/
  listed : (reader.allAs element list).result = dests.map element.ofTarget ∧
    (reader.allAs element list).outcome = last.close.outcome ∧
      (reader.allAs element list).reader = last.close.reader
  /-- Each record counts as a row. -/
  counted : last.rows = dests.length ∧ last.close.reader.rows = dests.length
  /-- The first record alone is that of the list. -/
  first : FirstAgrees reader element.blank dests last

/-- **The ways of reading records agree**, for every finite result, every naming and every kind
of element that is read by field. -/
theorem ways_agree [FiniteCursor σ] (cursor : σ) (naming : Naming) (dropUnmatched : Bool)
    (element : ElementType τ ε) (list : List ε) (hrouting : element.blank.routing = .byField) :
    ∃ dests last, WaysAgree (fresh cursor naming dropUnmatched false) element list dests last := by
  generalize hreader : fresh cursor naming dropUnmatched false = reader
  have hfree : reader.force = false := by rw [← hreader]; rfl
  have hphase : reader.phase = .fresh := by rw [← hreader]; rfl
  have hnew : reader.rows = 0 := by rw [← hreader]; rfl
  have hlive : reader.start.isSome := by rw [start, hphase]; rfl
  have hgoing : ({ reader, blank := element.blank } : Records σ τ).done = false := rfl
  have hcollect := Records.collect_eq hgoing
  have hlist := collect_byField hlive hfree hrouting list
  have hrows : (reader.records none element.blank).reader.rows =
      (reader.records none element.blank).dests.length := by
    rw [(readsEach_records reader element.blank).rows_eq, hnew, Nat.zero_add]
  refine ⟨_, _,
    { looped := readsEach_iff
      collected := ⟨congrArg Rows.dests hcollect, congrArg Rows.reader hcollect⟩
      listed := ?_
      counted := ⟨hrows, (close_rows _).trans hrows⟩
      first := firstAgrees_records hfree hrouting hphase hnew }⟩
  simp only [allAs, hlist]
  exact ⟨trivial, trivial, trivial⟩

/-- Rows of which the second one does not suit a truth value, read into records that are held
behind a list. -/
theorem ways_agree_flags :
    let cursor : Paged :=
      { columns := [{ name := "flag" }]
        rows := [[.bool (some true)], [.text (some "unknown")], [.bool (some false)]]
        pageSize := 2 }
    let element : ElementType Scalar (List (Destination Scalar)) :=
      { blank := .record ⟨"Entry", none⟩ (.column ⟨"flag", "flag", false⟩ ⟨.bool, false⟩ .nil)
        ofTarget := fun dest => [dest] }
    element.blank.routing = .byField ∧ ∃ dests last,
      WaysAgree (fresh cursor .asWritten true false) element [] dests last := by
  intro cursor element
  have hrouting : element.blank.routing = .byField := rfl
  exact ⟨hrouting, ways_agree cursor .asWritten true element [] hrouting⟩

end RowBind.Reader
