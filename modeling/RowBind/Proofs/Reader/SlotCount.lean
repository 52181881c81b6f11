import RowBind.Column.Scalar.Convert
import RowBind.Cursor.Paged
import RowBind.Proofs.Reader.Mismatch
import RowBind.Reader.Turns

/-!
# A slot for every column

A cursor writes a row through the slots it is given, and relies on there being one for every
column.  The slots are made in two ways.  A row by field has one for every route, and there
are as many routes as columns, also when the routes were found for another record.  A row
that is read as a whole has a single slot, after a look at the columns that makes sure there
are not several of them; that there might be none is not looked at.  So a cursor is given
another number of slots exactly if its result has no columns and a row of it is asked for as
a whole.

Main statements: `Fitted.fetchedThrough_readRow`, the slots of one row, and
`Fitted.fetchedThrough_readMany`, those of many; `fetchedThrough_iff`, when the slots are
right over the whole life of a reader; and `not_fetchedThrough_no_columns`, a row without
columns that is read through a slot.
-/

namespace RowBind

/-! ## Slots -/

/-- The number of slots of a fetch. -/
def CursorEvent.slots? : CursorEvent → Option Nat
  | fetched slots _ => some slots
  | failed slots => some slots
  | closed | released => none

/-- Every fetch was given `width` slots. -/
def FetchedThrough (width : Nat) (events : List CursorEvent) : Prop :=
  ∀ event ∈ events, ∀ slots, event.slots? = some slots → slots = width

theorem fetchedThrough_append {width : Nat} {before after : List CursorEvent} :
    FetchedThrough width (before ++ after) ↔
      FetchedThrough width before ∧ FetchedThrough width after :=
  List.forall_mem_append

theorem fetchedThrough_eventOf {width slots : Nat} {outcome : Outcome Bool} :
    FetchedThrough width [Recorded.eventOf slots outcome] ↔ slots = width := by
  cases outcome <;> simp [FetchedThrough, Recorded.eventOf, CursorEvent.slots?]

/-- There are as many routes as columns. -/
theorem Naming.routes_length (naming : Naming) (key : TypeKey) (columns : List String) :
    (naming.routes key columns).1.length = columns.length := by
  rw [naming.routes_fst, Layout.routes, List.length_map]

variable {σ τ ε : Type} [ColumnFamily τ]

/-- A destination is written as a whole through a single slot. -/
theorem Destination.slotsThrough_none_length (dest : Destination τ) :
    (dest.slotsThrough none).length = 1 := by
  cases dest <;> rfl

/-- A record is written through a slot for every route. -/
theorem Destination.slotsThrough_some_length {dest : Destination τ} (h : dest.isRecord = true)
    (routes : Routes) : (dest.slotsThrough (some routes)).length = routes.length := by
  cases dest with
  | column cell => cases h
  | record info fields => rw [slotsThrough, List.length_map, claims_length]

namespace Reader

variable [Cursor σ] {width : Nat} {byField : Bool} {dest : Destination τ}

/-- The result has `width` columns, and so many routes are known, if any are. -/
structure Fitted (width : Nat) (reader : Reader σ) : Prop where
  columns : (Cursor.columns reader.cursor).length = width
  routes : ∀ routes, reader.routes? = some routes → routes.length = width

/-- A row is asked for as a whole: the reader goes on, and the destination takes a value. -/
structure AsksWhole (reader : Reader σ) (byField : Bool) (dest : Destination τ) : Prop where
  whole : byField = false
  live : reader.start.isSome
  takesValue : dest.takesValue = true

/-! ## One row -/

/-- A step keeps the number of columns, and finds as many routes. -/
theorem Fitted.of_step {reader : Reader σ} {reading : Reading σ τ} (h : reader.Fitted width)
    (hstep : Step byField reader dest reading) : reading.reader.Fitted width := by
  cases hstep with
  | idle => exact h
  | refused => exact ⟨h.columns, by simp [nothing, fail, routes?]⟩
  | @fetched _ naming _ found hfound slots after _ log =>
      have hroutes : ∀ routes, found = some routes → routes.length = width := by
        rintro routes rfl
        rcases hfound routes rfl with hknown | ⟨-, rfl⟩
        · exact h.routes routes (by rw [routes?, hknown])
        · rw [Naming.routes_length, columnNames_length, h.columns]
      have hcolumns := congrArg List.length (Cursor.columns_fetch reader.cursor slots)
      refine ⟨?_, ?_⟩
      · rw [settled_cursor]
        exact hcolumns.trans h.columns
      · unfold settled
        split
        · exact hroutes
        · exact hroutes
        · simp [nothing, fail, routes?]

theorem Fitted.readRow {reader : Reader σ} (h : reader.Fitted width) (byField : Bool)
    (dest : Destination τ) : (reader.readRow byField dest).reader.Fitted width :=
  h.of_step (step_readRow byField reader dest)

/-- Nothing speaks against a row that is asked for as a whole where there are no columns. -/
theorem AsksWhole.objection?_eq {reader : Reader σ} (h : reader.AsksWhole byField dest)
    (hnone : (Cursor.columns reader.cursor).length = 0) :
    reader.objection? byField dest = none := by
  rw [h.whole]
  exact objection?_whole_eq_none_iff.mpr ⟨by omega, h.takesValue⟩

/-- A row that is asked for behind another one of its kind was asked for with that one as
well. -/
theorem AsksWhole.of_readRow {reader : Reader σ}
    (h : (reader.readRow byField dest).reader.AsksWhole byField dest) :
    reader.AsksWhole byField dest := by
  refine ⟨h.whole, ?_, h.takesValue⟩
  cases hstart : reader.start with
  | some started => rfl
  | none =>
      have hlive := h.live
      rw [readRow_idle hstart] at hlive
      simp [nothing, hstart] at hlive

/-- The number of slots through which a row is read that nothing speaks against. -/
theorem Fitted.slots_length_iff {reader : Reader σ} (h : reader.Fitted width)
    (hlive : reader.start.isSome) (hfine : reader.objection? byField dest = none) :
    (dest.slotsThrough (reader.routesFor byField dest)).length = width ↔
      ¬ (width = 0 ∧ reader.AsksWhole byField dest) := by
  cases byField with
  | false =>
      obtain ⟨hfew, hvalue⟩ := objection?_whole_eq_none_iff.mp hfine
      have hasks : reader.AsksWhole false dest := ⟨rfl, hlive, hvalue⟩
      have hcolumns := h.columns
      have hone : (dest.slotsThrough (reader.routesFor false dest)).length = 1 :=
        dest.slotsThrough_none_length
      simp only [hone, hasks, and_true]
      omega
  | true =>
      refine iff_of_true ?_ fun hasks => by cases hasks.2.whole
      rw [routesFor, if_pos rfl,
        Destination.slotsThrough_some_length (isRecord_of_objection? hfine)]
      cases hroutes : reader.routes? with
      | some routes => exact h.routes routes hroutes
      | none => rw [Option.getD_none, Naming.routes_length, columnNames_length, h.columns]

/-- **The slots of one row.**  They are right unless there are no columns and the row is
asked for as a whole. -/
theorem Fitted.fetchedThrough_readRow {reader : Reader (Recorded σ)} (h : reader.Fitted width)
    (byField : Bool) (dest : Destination τ) :
    FetchedThrough width (reader.readRow byField dest).reader.cursor.events ↔
      FetchedThrough width reader.cursor.events ∧
        ¬ (width = 0 ∧ reader.AsksWhole byField dest) := by
  cases hstart : reader.start with
  | none =>
      have hidle : ¬ reader.AsksWhole byField dest := fun hasks => by
        simpa [hstart] using hasks.live
      rw [readRow_idle hstart]
      simp [nothing, hidle]
  | some started =>
      have hlive : reader.start.isSome := by simp [hstart]
      cases hobjection : reader.objection? byField dest with
      | some failure =>
          rw [(readRow_of_objection hlive hobjection).2.2]
          refine (and_iff_left ?_).symm
          rintro ⟨hnone, hasks⟩
          have hfine := hasks.objection?_eq (h.columns.trans hnone)
          exact Option.some_ne_none _ (hobjection.symm.trans hfine)
      | none =>
          rw [readRow_asked hlive hobjection]
          dsimp only
          rw [settled_cursor, Recorded.events_fetch, fetchedThrough_append,
            fetchedThrough_eventOf, h.slots_length_iff hlive hobjection]

/-! ## Many rows -/

/-- The account of a cursor goes on behind the first of many rows. -/
theorem events_readRow_prefix_readMany [FiniteCursor (Recorded σ)] (byField : Bool)
    (reader : Reader (Recorded σ)) (dest : Destination τ) :
    (reader.readRow byField dest).reader.cursor.events <+:
      (reader.readMany byField none dest).reader.cursor.events := by
  rw [readMany_step byField (by simp)]
  dsimp only
  split
  · exact events_prefix_readMany byField none _ dest
  · exact List.prefix_refl _

/-- **The slots of many rows** are right if those of the first one are. -/
theorem Fitted.fetchedThrough_readMany [FiniteCursor (Recorded σ)] {reader : Reader (Recorded σ)}
    (h : reader.Fitted width) (byField : Bool) (dest : Destination τ) :
    FetchedThrough width (reader.readMany byField none dest).reader.cursor.events ↔
      FetchedThrough width reader.cursor.events ∧
        ¬ (width = 0 ∧ reader.AsksWhole byField dest) := by
  constructor
  · intro hall
    rw [← h.fetchedThrough_readRow]
    have hfirst := events_readRow_prefix_readMany byField reader dest
    exact fun event hmem => hall event (hfirst.subset hmem)
  · rintro ⟨hbefore, hfree⟩
    refine (readMany_induction (P := fun after : Reader (Recorded σ) =>
      after.Fitted width ∧ FetchedThrough width after.cursor.events ∧
        ¬ (width = 0 ∧ after.AsksWhole byField dest)) ?_ none ⟨h, hbefore, hfree⟩).2.1
    rintro after ⟨hfits, hevents, hfree⟩
    refine ⟨hfits.readRow byField dest, ?_, fun hasks => hfree ⟨hasks.1, hasks.2.of_readRow⟩⟩
    exact (hfits.fetchedThrough_readRow byField dest).mpr ⟨hevents, hfree⟩

/-- So are those of a list. -/
theorem Fitted.fetchedThrough_collect [FiniteCursor (Recorded σ)] {reader : Reader (Recorded σ)}
    (h : reader.Fitted width) (element : ElementType τ ε) (list : List ε) :
    FetchedThrough width (reader.collect element list).reader.cursor.events ↔
      FetchedThrough width reader.cursor.events ∧
        ¬ (width = 0 ∧ reader.AsksWhole
          (element.blank.routingForced reader.force).isByField element.blank) := by
  cases hstart : reader.start with
  | none =>
      have hidle : ∀ byField, ¬ reader.AsksWhole byField element.blank := fun _ hasks => by
        simpa [hstart] using hasks.live
      simp [collect, hstart, hidle]
  | some started =>
      have hlive : reader.start.isSome := by simp [hstart]
      cases hshape : reader.refusal? element.blank with
      | some cause =>
          rw [collect_of_refused hlive hshape]
          refine (and_iff_left ?_).symm
          rintro ⟨hnone, hasks⟩
          have hsuits : reader.Suits (element.blank.routingForced reader.force).isByField
              element.blank := by
            rw [Suits, hasks.whole]
            exact ⟨by rw [columnNames_length, h.columns]; omega, hasks.takesValue⟩
          exact Option.some_ne_none _ (hshape.symm.trans (refusal?_of_suits hsuits))
      | none =>
          have hstarted : Fitted width { reader with phase := .reading reader.routes? } :=
            ⟨h.columns, h.routes⟩
          have hasks : AsksWhole { reader with phase := .reading reader.routes? }
              (element.blank.routingForced reader.force).isByField element.blank ↔
                reader.AsksWhole (element.blank.routingForced reader.force).isByField
                  element.blank :=
            ⟨fun hasks => ⟨hasks.whole, hlive, hasks.takesValue⟩,
              fun hasks => ⟨hasks.whole, rfl, hasks.takesValue⟩⟩
          rw [collect_of_accepted hlive hshape, ← hasks]
          exact hstarted.fetchedThrough_readMany _ element.blank

/-! ## The life of a reader -/

/-- Closing a reader gives its cursor no slots. -/
theorem OnlyFetched.fetchedThrough_close {reader : Reader (Recorded σ)}
    (h : reader.OnlyFetched) :
    FetchedThrough width reader.close.reader.cursor.events ↔
      FetchedThrough width reader.cursor.events := by
  rw [h.events_close, fetchedThrough_append]
  simp [FetchedThrough, CursorEvent.slots?]

end Reader

/-- Giving up the reader asks for a row as a whole. -/
def Finish.AsksWhole [Cursor σ] (reader : Reader σ) : Finish σ τ ε → Prop
  | first dest => reader.AsksWhole (dest.routingForced reader.force).isByField dest
  | all element _ =>
    reader.AsksWhole (element.blank.routingForced reader.force).isByField element.blank
  | close | drop => False

namespace Reader

variable [Cursor σ] {width : Nat}

/-- The slots through which rows are read while the reader is given up. -/
theorem Fitted.fetchedThrough_finish {reader : Reader (Recorded σ)} (h : reader.Fitted width)
    (hopen : reader.OnlyFetched) (finish : Finish (Recorded σ) τ ε) :
    FetchedThrough width (finish.run reader).cursor.events ↔
      FetchedThrough width reader.cursor.events ∧ ¬ (width = 0 ∧ finish.AsksWhole reader) := by
  cases finish with
  | first dest =>
      have hrun : (Finish.first (ε := ε) dest).run reader = (reader.read dest).reader.close.reader :=
        drop_close _
      rw [hrun, read, (hopen.readRow _ dest).fetchedThrough_close]
      exact h.fetchedThrough_readRow _ dest
  | all element list =>
      have hrun : (Finish.all element list).run reader =
        (reader.collect element list).reader.close.reader := drop_close _
      rw [hrun, (hopen.collect element list).fetchedThrough_close]
      exact h.fetchedThrough_collect element list
  | close =>
      have hrun : (Finish.close (τ := τ) (ε := ε)).run reader = reader.close.reader :=
        drop_close reader
      rw [hrun, hopen.fetchedThrough_close]
      simp [Finish.AsksWhole]
  | drop =>
      have hrun : (Finish.drop (τ := τ) (ε := ε)).run reader = reader.close.reader :=
        drop_reader reader
      rw [hrun, hopen.fetchedThrough_close]
      simp [Finish.AsksWhole]

/-- Some call asks for a row as a whole. -/
def AsksWholeIn (reader : Reader σ) (calls : List (Call τ)) : Prop :=
  ∃ turn ∈ reader.turns calls, turn.reader.AsksWhole turn.byField turn.dest

/-- Calls keep the number of columns, and the slots are right unless there are no columns and
some call asks for a row as a whole.  By induction over the turns. -/
theorem Fitted.after {reader : Reader (Recorded σ)} (h : reader.Fitted width)
    (calls : List (Call τ)) :
    (reader.after calls).Fitted width ∧
      (FetchedThrough width (reader.after calls).cursor.events ↔
        FetchedThrough width reader.cursor.events ∧
          ¬ (width = 0 ∧ reader.AsksWholeIn calls)) := by
  refine turns_induction (P := fun turns (after : Reader (Recorded σ)) =>
    after.Fitted width ∧
      (FetchedThrough width after.cursor.events ↔ FetchedThrough width reader.cursor.events ∧
        ¬ (width = 0 ∧ ∃ turn ∈ turns, turn.reader.AsksWhole turn.byField turn.dest)))
    ?_ ?_ ⟨h, by simp⟩ calls
  · rintro turns after byField dest ⟨hfits, hslots⟩
    refine ⟨hfits.readRow byField dest, ?_⟩
    rw [hfits.fetchedThrough_readRow, hslots]
    simp only [List.mem_append, List.mem_singleton, or_and_right, exists_or, exists_eq_left,
      and_or_left, not_or, and_assoc]
  · rintro turns after dest ⟨hfits, hslots⟩ -
    -- records that are done ask for nothing
    have hspared : ¬ after.AsksWhole true dest := fun hasks => by cases hasks.whole
    refine ⟨hfits, ?_⟩
    rw [hslots]
    simp only [List.mem_append, List.mem_singleton, or_and_right, exists_or, exists_eq_left,
      hspared, or_false]

/-- **When there is a slot for every column.**  However a reader is called and given up, its
cursor is given as many slots as there are columns with every fetch, unless there are no
columns and a row is asked for as a whole. -/
theorem fetchedThrough_iff (cursor : σ) (naming : Naming) (dropUnmatched force : Bool)
    (calls : List (Call τ)) (finish : Finish (Recorded σ) τ ε) :
    let reader := fresh (Recorded.ofCursor cursor) naming dropUnmatched force
    FetchedThrough (Cursor.columns cursor).length
        (finish.run (reader.after calls)).cursor.events ↔
      ¬ (Cursor.columns cursor = [] ∧
        (reader.AsksWholeIn calls ∨ finish.AsksWhole (reader.after calls))) := by
  intro reader
  have hopen : reader.OnlyFetched := OnlyFetched.fresh cursor naming dropUnmatched force
  have hnew : FetchedThrough (Cursor.columns cursor).length reader.cursor.events := by
    simp [FetchedThrough, reader, fresh, Recorded.ofCursor]
  have hfits : reader.Fitted (Cursor.columns cursor).length := ⟨rfl, by simp [reader, fresh, routes?]⟩
  obtain ⟨hafter, hslots⟩ := hfits.after calls
  rw [hafter.fetchedThrough_finish (hopen.after calls) finish, hslots, List.length_eq_zero_iff]
  simp only [hnew, true_and, and_or_left, not_or]

/-- A row without values, of a result without columns, is read as a whole: the cursor is given
a slot that no column goes through, and the row is refused for that. -/
theorem not_fetchedThrough_no_columns :
    let cursor : Paged := { columns := [], rows := [[]] }
    let number : Destination Scalar := .column (.ofType (.int ⟨true, .w64⟩))
    let reader := fresh (Recorded.ofCursor cursor) .asWritten false false
    let finish : Finish (Recorded Paged) Scalar (Destination Scalar) := .close
    (reader.readColumn number).reader.failure? =
        some ((Failure.of (.shortRow 0 1)).within (.fetching 1)) ∧
      (finish.run (reader.after [.column number])).cursor.events =
        [.failed 1, .closed, .released] ∧
      ¬ FetchedThrough (Cursor.columns cursor).length
        (finish.run (reader.after [.column number])).cursor.events := by
  intro cursor number reader finish
  have hevents : (finish.run (reader.after [.column number])).cursor.events =
      [.failed 1, .closed, .released] := by with_unfolding_all rfl
  refine ⟨by with_unfolding_all rfl, hevents, fun hslots => ?_⟩
  rw [hevents] at hslots
  exact absurd (hslots (.failed 1) List.mem_cons_self 1 rfl) (by decide)

end Reader

end RowBind
