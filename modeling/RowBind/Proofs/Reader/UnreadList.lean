import RowBind.Column.Scalar.Convert
import RowBind.Proofs.Reader.Asking
import RowBind.Proofs.Reader.FirstFailure
import RowBind.Proofs.Reader.Suiting

/-!
# Lists that are not read

Reading a result into a list can fail before anything was fetched, since the reader has
failed before or since the elements do not suit the result.  The list should then be as it
was.

What speaks against the elements as such is found before the first row, and the list is
left alone.  But whether every column has a field is found only with the first row, and
then the list is replaced by the rows read so far, of which there are none.  So a list loses
its elements exactly if a column has no field in them, and nothing else stands in the way.

Main statements: `objection_iff_lacksField`, what can still speak against the first row;
`collect_of_objection` and `collect_of_unread`, what becomes of a list then and otherwise;
`keepsUnreadList_iff`, when a list is left as it was, whatever was asked of the reader
before; and `not_keepsUnreadList_lacking_field`, a list that loses its elements.
-/

namespace RowBind.Reader

variable {σ τ ε : Type} [ColumnFamily τ] [Cursor σ]

/-! ## Before the first row -/

/-- Nothing speaks against the elements as such, and they are read by field; but a column
has no field in them, and the reader does not know that yet. -/
structure LacksField (reader : Reader σ) (blank : Destination τ) : Prop where
  /-- The reader has not failed. -/
  live : reader.start.isSome
  /-- No row was read by field before. -/
  unrouted : reader.routes? = none
  byField : (blank.routingForced reader.force).isByField = true
  /-- Columns without a field are a failure. -/
  strict : reader.dropUnmatched = false
  lacking : ∃ info fields, blank = .record info fields ∧
    ∃ name ∈ Cursor.columnNames reader.cursor, ∀ k, ¬ fields.Answers reader.naming.rule name k

/-- Columns are not routed to a record exactly if one of them has no field and may not be
dropped. -/
theorem resolve_record_eq_error_iff {reader : Reader σ} {info : RecordInfo τ}
    {fields : Record τ} :
    (∃ failure, (reader.resolve (.record info fields)).1 = .error failure) ↔
      reader.dropUnmatched = false ∧ ∃ name ∈ Cursor.columnNames reader.cursor,
        ∀ k, ¬ fields.Answers reader.naming.rule name k := by
  have hroutes : (reader.naming.routes (Destination.record info fields).key
      (Cursor.columnNames reader.cursor)).1 =
        fields.layout.routes reader.naming.rule (Cursor.columnNames reader.cursor) :=
    Naming.routes_fst _ _ _
  have hmissing : (fields.layout.routes reader.naming.rule
      (Cursor.columnNames reader.cursor)).firstMissing? = none ↔ _ := firstMissing?_eq_none_iff
  simp only [resolve, Destination.isRecord, hroutes]
  cases hdrop : reader.dropUnmatched with
  | true => cases (fields.layout.routes reader.naming.rule
      (Cursor.columnNames reader.cursor)).firstMissing? <;> simp
  | false =>
      cases hfirst : (fields.layout.routes reader.naming.rule
          (Cursor.columnNames reader.cursor)).firstMissing? with
      | none =>
          have hall := hmissing.mp hfirst
          simp only [Bool.not_true, Bool.false_eq_true, if_false, reduceCtorEq, exists_false,
            false_iff]
          rintro ⟨-, name, hname, hnone⟩
          obtain ⟨k, hk⟩ := hall name hname
          exact hnone k hk
      | some i =>
          have hsome : ¬ ∀ name ∈ Cursor.columnNames reader.cursor,
              ∃ k, fields.Answers reader.naming.rule name k := by
            rw [← hmissing, hfirst]
            simp
          simpa [failFor] using hsome

/-- Elements that are read by field and not refused are records. -/
theorem isRecord_of_refusal? {reader : Reader σ} {blank : Destination τ}
    (hshape : reader.refusal? blank = none)
    (hby : (blank.routingForced reader.force).isByField = true) : blank.isRecord = true := by
  cases blank with
  | record info fields => rfl
  | column cell =>
      cases hforce : reader.force with
      | true => simp [refusal?, hforce, Destination.isRecord] at hshape
      | false =>
          simp [hforce, Destination.routingForced, Destination.routing, Destination.isRecord,
            Routing.isByField] at hby

/-- Nothing speaks against the first row of elements that are not refused and read as a
whole. -/
theorem objection?_of_whole {reader : Reader σ} {blank : Destination τ}
    (hshape : reader.refusal? blank = none)
    (hby : (blank.routingForced reader.force).isByField = false) :
    reader.objection? false blank = none := by
  simp only [refusal?, hby] at hshape
  split at hshape
  · cases hshape
  · simp only [Bool.not_false, Bool.true_and] at hshape
    simp only [objection?, Bool.false_eq_true, if_false]
    split at hshape
    · cases hshape
    · next hmany =>
      split at hshape
      · cases hshape
      · next hvalue => rw [if_neg (by simpa using hmany), if_neg hvalue]

/-- **What can still speak against the first row** of a list whose elements are not refused
as such. -/
theorem objection_iff_lacksField {reader : Reader σ} {blank : Destination τ}
    (hlive : reader.start.isSome) (hshape : reader.refusal? blank = none) :
    (∃ failure, reader.objection? (blank.routingForced reader.force).isByField blank =
      some failure) ↔ reader.LacksField blank := by
  cases hby : (blank.routingForced reader.force).isByField with
  | false =>
      rw [objection?_of_whole hshape hby]
      refine iff_of_false (by simp) fun hlacks => ?_
      exact Bool.false_ne_true (hby.symm.trans hlacks.byField)
  | true =>
      obtain ⟨info, fields, rfl⟩ : ∃ info fields, blank = .record info fields := by
        have hrecord := isRecord_of_refusal? hshape hby
        cases blank with
        | column cell => cases hrecord
        | record info fields => exact ⟨info, fields, rfl⟩
      cases hroutes : reader.routes? with
      | some routes =>
          refine iff_of_false ?_ fun hlacks => ?_
          · simp [objection?, hroutes, Destination.isRecord]
          · exact Option.some_ne_none _ (hroutes.symm.trans hlacks.unrouted)
      | none =>
          have hresolve : (∃ failure, reader.objection? true (.record info fields) =
              some failure) ↔
                ∃ failure, (reader.resolve (.record info fields)).1 = .error failure := by
            simp only [objection?, hroutes]
            cases (reader.resolve (.record info fields)).1 <;> simp
          rw [hresolve, resolve_record_eq_error_iff]
          constructor
          · rintro ⟨hstrict, hlacking⟩
            exact ⟨hlive, hroutes, hby, hstrict, info, fields, rfl, hlacking⟩
          · rintro hlacks
            obtain ⟨_, _, heq, hlacking⟩ := hlacks.lacking
            cases heq
            exact ⟨hlacks.strict, hlacking⟩

/-- Elements of which a column lacks its field are not refused as such. -/
theorem LacksField.refusal?_eq {reader : Reader σ} {blank : Destination τ}
    (h : reader.LacksField blank) : reader.refusal? blank = none := by
  obtain ⟨info, fields, rfl, -⟩ := h.lacking
  simp [refusal?, h.byField, Destination.isRecord]

/-! ## What the cursor is asked for -/

/-- The account of a cursor grows with every step. -/
theorem events_prefix_of_step {byField : Bool} {reader : Reader (Recorded σ)}
    {dest : Destination τ} {reading : Reading (Recorded σ) τ}
    (hstep : Step byField reader dest reading) :
    reader.cursor.events <+: reading.reader.cursor.events := by
  cases hstep with
  | idle => exact List.prefix_refl _
  | refused => exact List.prefix_refl _
  | fetched hstart hrule hroutes slots hkept log =>
      rw [settled_cursor]
      exact List.prefix_append _ _

/-- A row that nothing speaks against is asked for. -/
theorem events_readRow_of_no_objection {byField : Bool} {reader : Reader (Recorded σ)}
    {dest : Destination τ} (hlive : reader.start.isSome)
    (h : reader.objection? byField dest = none) :
    ∃ event : CursorEvent, event.isFetch = true ∧
      (reader.readRow byField dest).reader.cursor.events = reader.cursor.events ++ [event] := by
  rw [readRow_asked hlive h]
  dsimp only
  rw [settled_cursor]
  exact ⟨_, Recorded.eventOf_isFetch _ _, Recorded.events_fetch _ _⟩

/-- A row that something speaks against is not asked for, and the reader fails. -/
theorem readRow_of_objection {byField : Bool} {reader : Reader (Recorded σ)}
    {dest : Destination τ} (hlive : reader.start.isSome) {failure : Failure}
    (h : reader.objection? byField dest = some failure) :
    (reader.readRow byField dest).delivered = false ∧
      (reader.readRow byField dest).reader.failure? = some failure ∧
      (reader.readRow byField dest).reader.cursor.events = reader.cursor.events := by
  rw [readRow_objected hlive h]
  exact ⟨rfl, rfl, congrArg Recorded.events (prepared_kept byField reader dest).1⟩

/-- The account of a cursor grows while many rows are read. -/
theorem events_prefix_readMany [FiniteCursor (Recorded σ)] (byField : Bool)
    (limit : Option Nat) (reader : Reader (Recorded σ)) (blank : Destination τ) :
    reader.cursor.events <+: (reader.readMany byField limit blank).reader.cursor.events := by
  refine readMany_induction
    (P := fun after : Reader (Recorded σ) => reader.cursor.events <+: after.cursor.events)
    (fun after hprefix => ?_) limit (List.prefix_refl _)
  exact hprefix.trans (events_prefix_of_step (step_readRow byField after blank))

variable [FiniteCursor σ]

/-- Where nothing speaks against the first of many rows, the cursor is asked for it. -/
theorem readMany_of_no_objection {byField : Bool} {reader : Reader (Recorded σ)}
    {blank : Destination τ} (hlive : reader.start.isSome)
    (h : reader.objection? byField blank = none) :
    ∃ event : CursorEvent, event.isFetch = true ∧ reader.cursor.events ++ [event] <+:
      (reader.readMany byField none blank).reader.cursor.events := by
  obtain ⟨event, hfetch, hevents⟩ := events_readRow_of_no_objection hlive h
  refine ⟨event, hfetch, ?_⟩
  rw [readMany_step byField (by simp), ← hevents]
  dsimp only
  split
  · exact events_prefix_readMany byField none _ blank
  · exact List.prefix_refl _

/-- Where something speaks against the first of many rows, none is read, and the cursor is
not asked for any. -/
theorem readMany_of_objection {byField : Bool} {reader : Reader (Recorded σ)}
    {blank : Destination τ} (hlive : reader.start.isSome) {failure : Failure}
    (h : reader.objection? byField blank = some failure) :
    (reader.readMany byField none blank).dests = [] ∧
      (reader.readMany byField none blank).reader.failure? = some failure ∧
      (reader.readMany byField none blank).reader.cursor.events = reader.cursor.events := by
  obtain ⟨hnone, hfailed, hevents⟩ := readRow_of_objection hlive h
  rw [readMany_step byField (by simp)]
  simp only [hnone]
  exact ⟨rfl, hfailed, hevents⟩

/-! ## The list -/

/-- What the cursor is asked for to read a list, before it is closed. -/
def fetchesForAll (reader : Reader (Recorded σ)) (element : ElementType τ ε) (list : List ε) :
    List CursorEvent :=
  (reader.collect element list).reader.cursor.events.drop reader.cursor.events.length

/-- What is to be expected of a list if reading it fails before anything was fetched. -/
def KeepsUnreadList (reader : Reader (Recorded σ)) (element : ElementType τ ε)
    (list : List ε) : Prop :=
  ∀ failure, (reader.allAs element list).outcome = .error failure →
    reader.fetchesForAll element list = [] → (reader.allAs element list).result = list

/-- The elements of a list that is not refused are the rows that the reader at work
reads. -/
theorem collect_of_accepted {reader : Reader σ} {element : ElementType τ ε}
    (hlive : reader.start.isSome) (hshape : reader.refusal? element.blank = none)
    (list : List ε) :
    reader.collect element list =
      let rows := { reader with phase := .reading reader.routes? }.readMany
        (element.blank.routingForced reader.force).isByField none element.blank
      { elements := rows.dests.map element.ofTarget, reader := rows.reader, log := rows.log } := by
  have hsame : refusal? { reader with phase := .reading reader.routes? } element.blank = none :=
    hshape
  simp only [collect, start_eq hlive, hsame]

/-- A list that is refused is kept, and the reader fails for that. -/
theorem collect_of_refused {reader : Reader σ} {element : ElementType τ ε} {cause : Cause}
    (hlive : reader.start.isSome) (hrefused : reader.refusal? element.blank = some cause)
    (list : List ε) :
    reader.collect element list =
      { elements := list, reader := reader.fail (.of cause), log := [] } := by
  have hsame : refusal? { reader with phase := .reading reader.routes? } element.blank =
    some cause := hrefused
  simp only [collect, start_eq hlive, hsame, fail]

/-- Where something speaks against the first row, nothing is fetched, and the list has lost
its elements. -/
theorem collect_of_objection {reader : Reader (Recorded σ)} {element : ElementType τ ε}
    (hlive : reader.start.isSome) (hshape : reader.refusal? element.blank = none)
    {failure : Failure} (h : reader.objection?
      (element.blank.routingForced reader.force).isByField element.blank = some failure)
    (list : List ε) :
    (reader.collect element list).elements = [] ∧ reader.fetchesForAll element list = [] ∧
      (reader.allAs element list).outcome = .error failure := by
  have hstarted : objection? (element.blank.routingForced reader.force).isByField
      { reader with phase := .reading reader.routes? } element.blank = some failure := h
  obtain ⟨hnone, hfailed, hevents⟩ := readMany_of_objection rfl hstarted
  have hcollect := collect_of_accepted hlive hshape list
  refine ⟨?_, ?_, allAs_outcome_of_failure? ?_⟩
  · rw [hcollect]
    simp [hnone]
  · rw [fetchesForAll, hcollect]
    simp [hevents]
  · rw [hcollect]
    exact hfailed

/-- Where every column has its field, a list that is not read is kept. -/
theorem collect_of_unread {reader : Reader (Recorded σ)} {element : ElementType τ ε}
    {list : List ε} (hlacks : ¬ reader.LacksField element.blank)
    (hunread : reader.fetchesForAll element list = []) :
    (reader.collect element list).elements = list := by
  cases hstart : reader.start with
  | none => simp [collect, hstart]
  | some started =>
      have hlive : reader.start.isSome := by simp [hstart]
      cases hshape : reader.refusal? element.blank with
      | some cause => rw [collect_of_refused hlive hshape]
      | none =>
          -- nothing speaks against the first row, so it was asked for
          have hfine : objection? (element.blank.routingForced reader.force).isByField
              { reader with phase := .reading reader.routes? } element.blank = none := by
            refine Option.eq_none_iff_forall_ne_some.mpr fun failure hobjection => hlacks ?_
            exact (objection_iff_lacksField hlive hshape).mp ⟨failure, hobjection⟩
          obtain ⟨event, -, hasked⟩ := readMany_of_no_objection rfl hfine
          rw [fetchesForAll, collect_of_accepted hlive hshape, List.drop_eq_nil_iff] at hunread
          have hmore := hasked.length_le
          rw [List.length_append, List.length_singleton] at hmore
          exact absurd (Nat.le_trans hmore hunread) (Nat.not_succ_le_self _)

/-- **When a list is left as it was.**  A list that is not read loses its elements exactly if
a column has no field in them. -/
theorem keepsUnreadList_iff (reader : Reader (Recorded σ)) (element : ElementType τ ε)
    (list : List ε) :
    reader.KeepsUnreadList element list ↔ ¬ (reader.LacksField element.blank ∧ list ≠ []) := by
  constructor
  · rintro hkeeps ⟨hlacks, hsome⟩
    obtain ⟨failure, hobjection⟩ :=
      (objection_iff_lacksField hlacks.live hlacks.refusal?_eq).mpr hlacks
    obtain ⟨hlost, hunread, hfailed⟩ :=
      collect_of_objection hlacks.live hlacks.refusal?_eq hobjection list
    exact hsome ((hkeeps failure hfailed hunread).symm.trans hlost)
  · intro hnot failure hfailed hunread
    by_cases hlacks : reader.LacksField element.blank
    · have hnone : list = [] := Decidable.byContradiction fun hsome => hnot ⟨hlacks, hsome⟩
      obtain ⟨failure, hobjection⟩ :=
        (objection_iff_lacksField hlacks.live hlacks.refusal?_eq).mpr hlacks
      rw [hnone]
      exact (collect_of_objection hlacks.live hlacks.refusal?_eq hobjection []).1
    · exact collect_of_unread hlacks hunread

/-- A list of two records that is to be read from a result with a column `other`, for which
they have no field, is empty in the end. -/
theorem not_keepsUnreadList_lacking_field :
    let cursor : Paged := { columns := [{ name := "id" }, { name := "other" }], rows := [] }
    let entry : Destination Scalar :=
      .record ⟨"Entry", none⟩ (.column ⟨"id", "id", false⟩ ⟨.bool, false⟩ .nil)
    let reader := fresh (Recorded.ofCursor cursor) .asWritten false false
    (reader.allAs ⟨entry, id⟩ [entry, entry]).outcome =
        failFor (.noField "other" "Entry") ∧
      (reader.allAs ⟨entry, id⟩ [entry, entry]).result = [] ∧
      ¬ reader.KeepsUnreadList ⟨entry, id⟩ [entry, entry] := by
  intro cursor entry reader
  let element : ElementType Scalar (Destination Scalar) := ⟨entry, id⟩
  have hobjection : reader.objection? (element.blank.routingForced reader.force).isByField
      element.blank = some (.of (.noField "other" "Entry")) := by with_unfolding_all rfl
  obtain ⟨hlost, hunread, hfailed⟩ :=
    collect_of_objection (by rfl) (by rfl) hobjection [entry, entry]
  refine ⟨hfailed, hlost, fun hkeeps => ?_⟩
  have hkept := hkeeps _ hfailed hunread
  exact List.cons_ne_nil _ _ (hkept.symm.trans hlost)

end RowBind.Reader
