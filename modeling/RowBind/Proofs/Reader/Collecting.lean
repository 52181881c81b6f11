import RowBind.Column.Scalar.Convert
import RowBind.Proofs.Reader.Suiting

/-!
# Rows read into a list

All rows of a result are read into a list, each into an element of its own.  What the list
holds in the end is said without a reader: the rows up to the first one that an element
does not take, each taken by a blank element.  So an element depends on its row only, and
a row that is taken in part leaves no trace.

The reading of one row is a matter of three cases: the row is taken, it is not taken, or
there is none.  Every case leaves the reader about to read the rows that are left, or at
its end; the whole run follows by induction on the rows.

Main statements: `About.readMany_leading`, what reading row by row comes to;
`suits_iff_accepted`, the elements that suit are those the reader accepts; and
`allAs_leading`, what a list holds in the end, how its reader ends, and what was asked of
the cursor.
-/

namespace RowBind

/-! ## The leading rows -/

namespace Destination

variable {τ : Type} [ColumnFamily τ]

/-- The destination takes the row as a whole. -/
def takes (byField : Bool) (rule : NameRule) (columns : List String) (dest : Destination τ)
    (row : Row) : Bool :=
  (dest.takeRow byField rule columns row).1.isOk

/-- The rows in front of the first one that the destination does not take. -/
def leading (byField : Bool) (rule : NameRule) (columns : List String) (dest : Destination τ)
    (rows : List Row) : List Row :=
  rows.takeWhile (dest.takes byField rule columns)

variable {byField : Bool} {rule : NameRule} {columns : List String} {dest : Destination τ}
  {row : Row}

theorem takes_of_ok (h : (dest.takeRow byField rule columns row).1 = .ok ()) :
    dest.takes byField rule columns row = true := by
  rw [takes, h]
  rfl

theorem takes_of_error {failure : Failure}
    (h : (dest.takeRow byField rule columns row).1 = .error failure) :
    dest.takes byField rule columns row = false := by
  rw [takes, h]
  rfl

theorem leading_of_ok (h : (dest.takeRow byField rule columns row).1 = .ok ())
    (rows : List Row) :
    dest.leading byField rule columns (row :: rows) =
      row :: dest.leading byField rule columns rows :=
  List.takeWhile_cons_of_pos (takes_of_ok h)

theorem leading_of_error {failure : Failure}
    (h : (dest.takeRow byField rule columns row).1 = .error failure) (rows : List Row) :
    dest.leading byField rule columns (row :: rows) = [] :=
  List.takeWhile_cons_of_neg (by simp [takes_of_error h])

end Destination

namespace Reader

variable {σ τ ε : Type} [ColumnFamily τ] [Cursor σ]

/-! ## One row -/

/-- The reader is about to read rows that its cursor holds. -/
structure About (rule : NameRule) (columns : List String) (dropUnmatched : Bool)
    (blank : Destination τ) (rows : List Row) (reader : Reader (Recorded σ)) : Prop where
  routed : reader.RoutedFor rule columns dropUnmatched blank.layout
  live : reader.start.isSome
  holds : Cursor.Holds τ reader.cursor.cursor rows

variable {byField : Bool} {rule : NameRule} {columns : List String} {dropUnmatched : Bool}
  {blank : Destination τ} {row : Row} {rows : List Row} {reader : Reader (Recorded σ)}

/-- What a fetch for a row adds to the account of the cursor. -/
theorem events_fetchFor (byField : Bool) (rule : NameRule) (columns : List String)
    (reader : Reader (Recorded σ)) (dest : Destination τ) :
    (reader.fetchFor byField rule columns dest).cursor.events = reader.cursor.events ++
      [Recorded.eventOf (dest.slotsFor byField rule columns).length
        (reader.fetchFor byField rule columns dest).outcome] := rfl

/-- A fetch for a row that the cursor holds turns out as the destination takes it. -/
theorem About.outcome_fetchFor
    (h : reader.About rule columns dropUnmatched blank (row :: rows)) :
    (reader.fetchFor byField rule columns blank).outcome =
      (blank.takeRow byField rule columns row).1.map fun _ => true := by
  obtain ⟨next, log, hfetch⟩ :=
    (holds_recorded h.holds).writes (blank.slotsFor byField rule columns)
  rw [fetchFor, hfetch, deliver_eq]
  rfl

/-- A row that the element takes is there, and the reader is about to read the others. -/
theorem About.readRow_taken (h : reader.About rule columns dropUnmatched blank (row :: rows))
    (hsuits : blank.Suits byField rule columns dropUnmatched)
    (hok : (blank.takeRow byField rule columns row).1 = .ok ()) :
    ∃ after log, reader.readRow byField blank =
        { delivered := true
          reader := after
          dest := (blank.takeRow byField rule columns row).2
          log } ∧
      after.About rule columns dropUnmatched blank rows ∧ after.rows = reader.rows + 1 ∧
      after.cursor.events = reader.cursor.events ++
        [.fetched (blank.slotsFor byField rule columns).length true] := by
  obtain ⟨naming, routes, log, heq⟩ :=
    h.routed.readRow_of_writes h.live hsuits (holds_recorded h.holds).writes
  have hrouted : (reader.readRow byField blank).reader.RoutedFor rule columns dropUnmatched
      blank.layout := h.routed.readRow fun _ => rfl
  rw [heq, hok] at hrouted
  rw [heq, hok]
  refine ⟨_, log, rfl, ⟨hrouted, rfl, h.holds.fetch _⟩, rfl, ?_⟩
  rw [events_fetchFor, h.outcome_fetchFor, hok]
  rfl

/-- A row that the element does not take is the last one: the reader fails. -/
theorem About.readRow_refused
    (h : reader.About rule columns dropUnmatched blank (row :: rows))
    (hsuits : blank.Suits byField rule columns dropUnmatched) {failure : Failure}
    (hfail : (blank.takeRow byField rule columns row).1 = .error failure) :
    (reader.readRow byField blank).delivered = false ∧
      (reader.readRow byField blank).reader.phase =
        .failed (failure.within (.fetching (reader.rows + 1))) ∧
      (reader.readRow byField blank).reader.cursor.events = reader.cursor.events ++
        [.failed (blank.slotsFor byField rule columns).length] := by
  obtain ⟨naming, routes, log, heq⟩ :=
    h.routed.readRow_of_writes h.live hsuits (holds_recorded h.holds).writes
  rw [heq, hfail]
  refine ⟨rfl, rfl, ?_⟩
  rw [settled_cursor, events_fetchFor, h.outcome_fetchFor, hfail]
  rfl

/-- Behind the last row there is none, and the reader is fine. -/
theorem About.readRow_end (h : reader.About rule columns dropUnmatched blank [])
    (hsuits : blank.Suits byField rule columns dropUnmatched) :
    (reader.readRow byField blank).delivered = false ∧
      (∃ routes, (reader.readRow byField blank).reader.phase = .reading routes) ∧
      (reader.readRow byField blank).reader.cursor.events = reader.cursor.events ++
        [.fetched (blank.slotsFor byField rule columns).length false] := by
  obtain ⟨naming, routes, log, heq⟩ := h.routed.readRow_eq h.live hsuits
  have hend : (reader.fetchFor byField rule columns blank).outcome = .ok false := by
    obtain ⟨next, before, hfetch⟩ := holds_recorded h.holds (blank.slotsFor byField rule columns)
    rw [fetchFor, hfetch, noRow_outcome]
  rw [heq, hend]
  refine ⟨rfl, ⟨routes, rfl⟩, ?_⟩
  rw [settled_cursor, events_fetchFor, hend]
  rfl

/-! ## Row by row -/

/-- The fetches for the leading `taken` of `held` rows: one for each of them, and one more
that fails, or finds no row if there is none. -/
def fetchesForLeading (width taken held : Nat) : List CursorEvent :=
  List.replicate taken (.fetched width true) ++
    [if taken = held then .fetched width false else .failed width]

/-- What reading row by row comes to, if the reader is about to read the given rows. -/
structure ReadsLeading (byField : Bool) (rule : NameRule) (columns : List String)
    (blank : Destination τ) (rows : List Row) (reader : Reader (Recorded σ))
    (result : Rows (Recorded σ) τ) : Prop where
  /-- The elements are the leading rows, each taken by a blank element. -/
  dests : result.dests = (blank.leading byField rule columns rows).map fun row =>
    (blank.takeRow byField rule columns row).2
  /-- No row behind the first one that is not taken is asked for. -/
  events : result.reader.cursor.events = reader.cursor.events ++
    fetchesForLeading (blank.slotsFor byField rule columns).length
      (blank.leading byField rule columns rows).length rows.length
  /-- Where every row is taken, the reader is fine. -/
  complete : (blank.leading byField rule columns rows).length = rows.length →
    ∃ routes, result.reader.phase = .reading routes
  /-- Where a row is not taken, the reader fails for the first such row. -/
  broken : ∀ row, rows[(blank.leading byField rule columns rows).length]? = some row →
    ∃ failure, (blank.takeRow byField rule columns row).1 = .error failure ∧
      result.reader.phase = .failed (failure.within
        (.fetching (reader.rows + (blank.leading byField rule columns rows).length + 1)))

/-- **What reading row by row comes to.**  By induction on the rows that the cursor
holds. -/
theorem About.readMany_leading [FiniteCursor (Recorded σ)]
    (h : reader.About rule columns dropUnmatched blank rows)
    (hsuits : blank.Suits byField rule columns dropUnmatched) :
    ReadsLeading byField rule columns blank rows reader
      (reader.readMany byField none blank) := by
  induction rows generalizing reader with
  | nil =>
      obtain ⟨hdelivered, hfine, hevents⟩ := h.readRow_end hsuits
      rw [readMany_step byField (by simp)]
      simp only [hdelivered]
      exact
        { dests := rfl
          events := hevents
          complete := fun _ => hfine
          broken := by simp }
  | cons row rows ih =>
      cases htaken : (blank.takeRow byField rule columns row).1 with
      | error failure =>
          obtain ⟨hdelivered, hfailed, hevents⟩ := h.readRow_refused hsuits htaken
          rw [readMany_step byField (by simp)]
          simp only [hdelivered]
          have hnone := Destination.leading_of_error htaken rows
          exact
            { dests := by simp [hnone]
              events := by simpa [hnone, fetchesForLeading] using hevents
              complete := by simp [hnone]
              broken := by simp [hnone, htaken, hfailed] }
      | ok =>
          obtain ⟨after, log, hread, hafter, hcount, hevents⟩ := h.readRow_taken hsuits htaken
          rw [readMany_step byField (by simp)]
          simp only [hread, Option.map_none, if_true]
          have hrest := ih hafter
          have hsome := Destination.leading_of_ok htaken rows
          refine
            { dests := by simp [hsome, hrest.dests]
              events := ?_
              complete := fun hall => hrest.complete (by simpa [hsome] using hall)
              broken := ?_ }
          · simp [hrest.events, hevents, hsome, fetchesForLeading, List.replicate_succ]
          · intro other hother
            rw [hsome, List.length_cons, List.getElem?_cons_succ] at hother
            obtain ⟨failure, hfail, hphase⟩ := hrest.broken other hother
            refine ⟨failure, hfail, ?_⟩
            have hposition : after.rows + (blank.leading byField rule columns rows).length + 1 =
                reader.rows + (blank.leading byField rule columns (row :: rows)).length + 1 := by
              rw [hcount, hsome, List.length_cons]
              omega
            rw [hphase, hposition]

/-! ## The list -/

/-- A destination that suits is not refused for its shape. -/
theorem refusal?_of_suits {reader : Reader σ} {blank : Destination τ}
    (h : blank.Suits (blank.routingForced reader.force).isByField rule
      (Cursor.columnNames reader.cursor) dropUnmatched) : reader.refusal? blank = none := by
  have hcount : (Cursor.columnNames reader.cursor).length =
      (Cursor.columns reader.cursor).length := by simp [Cursor.columnNames]
  unfold refusal?
  cases hby : (blank.routingForced reader.force).isByField with
  | true =>
      rw [hby] at h
      obtain ⟨info, fields, rfl, -⟩ := h
      simp [Destination.isRecord]
  | false =>
      rw [hby] at h
      obtain ⟨hone, hvalue⟩ := h
      have hfree : reader.force = false := by
        cases hforce : reader.force with
        | false => rfl
        | true => simp [hforce, Destination.routing_of_forced, Routing.isByField] at hby
      have hfew : ¬ (Cursor.columns reader.cursor).length > 1 := by omega
      simp [hfree, hfew, hvalue]

/-- A destination suits exactly if the reader does not refuse it for its shape, and routes
the columns to it where it is read by field. -/
theorem suits_iff_accepted {reader : Reader σ} {blank : Destination τ}
    (h : reader.RoutedFor rule columns dropUnmatched blank.layout) :
    blank.Suits (blank.routingForced reader.force).isByField rule columns dropUnmatched ↔
      reader.refusal? blank = none ∧
        ((blank.routingForced reader.force).isByField = true →
          ∃ routes naming log, reader.resolve blank = (.ok routes, naming, log)) := by
  constructor
  · intro hsuits
    refine ⟨refusal?_of_suits (h.columns_eq.symm ▸ hsuits), fun hby => ?_⟩
    rw [hby] at hsuits
    obtain ⟨info, fields, rfl, hanswers⟩ := hsuits
    exact ⟨_, h.resolve_eq info hanswers⟩
  · rintro ⟨hshape, hroute⟩
    cases hby : (blank.routingForced reader.force).isByField with
    | true =>
        obtain ⟨routes, naming, log, hresolve⟩ := hroute hby
        exact h.answers_of_resolve hresolve
    | false =>
        have hcount : columns.length = (Cursor.columns reader.cursor).length := by
          rw [← h.columns_eq, Cursor.columnNames, List.length_map]
        unfold refusal? at hshape
        simp only [hby] at hshape
        refine ⟨?_, ?_⟩
        · rw [hcount]
          refine Decidable.byContradiction fun hmany => ?_
          have hgreater : (Cursor.columns reader.cursor).length > 1 := by omega
          split at hshape <;> simp [hgreater] at hshape
        · refine Decidable.byContradiction fun hvalue => ?_
          split at hshape
          · cases hshape
          · split at hshape
            · cases hshape
            · simp [hvalue] at hshape

/-- What is to be expected of reading a result into a list. -/
structure CollectsLeading (byField : Bool) (rule : NameRule) (columns : List String)
    (element : ElementType τ ε) (rows : List Row) (ending : Ending (Recorded σ) (List ε)) :
    Prop where
  /-- The list holds the leading rows, each taken by an element of its own. -/
  result : ending.result = (element.blank.leading byField rule columns rows).map fun row =>
    element.ofTarget (element.blank.takeRow byField rule columns row).2
  /-- The cursor was asked for the leading rows and for one more, then closed and
  released; how that and the reading turned out is told. -/
  ends : ∃ last : Recorded σ,
    last.events = fetchesForLeading (element.blank.slotsFor byField rule columns).length
      (element.blank.leading byField rule columns rows).length rows.length ∧
    ending.reader.cursor = Cursor.release (Cursor.close last).2 ∧
    (ending.outcome = .ok () ↔
      (element.blank.leading byField rule columns rows).length = rows.length ∧
        (Cursor.close last).1 = .ok ()) ∧
    ∀ row, rows[(element.blank.leading byField rule columns rows).length]? = some row →
      ∃ failure, (element.blank.takeRow byField rule columns row).1 = .error failure ∧
        ending.outcome = .error (failure.within
          (.fetching ((element.blank.leading byField rule columns rows).length + 1)))

/-- Rows that were read row by row are closed as is to be expected of a list. -/
theorem ReadsLeading.collects {element : ElementType τ ε} {reader : Reader (Recorded σ)}
    {read : Rows (Recorded σ) τ} {ending : Ending (Recorded σ) (List ε)}
    (h : ReadsLeading byField rule columns element.blank rows reader read)
    (hnew : reader.rows = 0 ∧ reader.cursor.events = [])
    (hresult : ending.result = read.dests.map element.ofTarget)
    (houtcome : ending.outcome = read.reader.close.outcome)
    (hcursor : ending.reader.cursor = read.reader.close.reader.cursor) :
    CollectsLeading byField rule columns element rows ending := by
  have hlength : (element.blank.leading byField rule columns rows).length ≤ rows.length :=
    (List.takeWhile_prefix _).length_le
  have hevents := h.events
  rw [hnew.2, List.nil_append] at hevents
  have hopen : read.reader.phase ≠ .closed := by
    rcases Nat.lt_or_eq_of_le hlength with hlt | heq
    · obtain ⟨failure, -, hphase⟩ := h.broken _ (List.getElem?_eq_getElem hlt)
      simp [hphase]
    · obtain ⟨routes, hphase⟩ := h.complete heq
      simp [hphase]
  refine ⟨by rw [hresult, h.dests, List.map_map]; rfl, read.reader.cursor, hevents,
    hcursor.trans (close_cursor hopen), ?_, ?_⟩
  · rw [houtcome, close_outcome hopen]
    rcases Nat.lt_or_eq_of_le hlength with hlt | heq
    · obtain ⟨failure, -, hphase⟩ := h.broken _ (List.getElem?_eq_getElem hlt)
      have hne : (element.blank.leading byField rule columns rows).length ≠ rows.length :=
        Nat.ne_of_lt hlt
      simp [failure?, hphase, hne]
    · obtain ⟨routes, hphase⟩ := h.complete heq
      cases hclose : (Cursor.close read.reader.cursor).1 <;> simp [failure?, hphase, heq]
  · intro row hrow
    obtain ⟨failure, hfail, hphase⟩ := h.broken row hrow
    rw [hnew.1, Nat.zero_add] at hphase
    refine ⟨failure, hfail, ?_⟩
    rw [houtcome, close_outcome hopen]
    simp [failure?, hphase]

/-- **What a list holds in the end.**  Any result that is read into a list, with any kind
of elements that suit it, comes to the leading rows and to nothing else. -/
theorem allAs_leading [FiniteCursor σ] {cursor : σ} {naming : Naming}
    {dropUnmatched force : Bool} {element : ElementType τ ε} {rows : List Row}
    (hsuits : element.blank.Suits (element.blank.routingForced force).isByField naming.rule
      (Cursor.columnNames cursor) dropUnmatched)
    (hholds : Cursor.Holds τ cursor rows) (list : List ε) :
    CollectsLeading (element.blank.routingForced force).isByField naming.rule
      (Cursor.columnNames cursor) element rows
      ((fresh (Recorded.ofCursor cursor) naming dropUnmatched force).allAs element list) := by
  have habout : About naming.rule (Cursor.columnNames cursor) dropUnmatched element.blank rows
      { fresh (Recorded.ofCursor cursor) naming dropUnmatched force with
        phase := .reading none } :=
    ⟨⟨rfl, rfl, rfl, by simp⟩, rfl, hholds⟩
  have hshape : refusal?
      { fresh (Recorded.ofCursor cursor) naming dropUnmatched force with
        phase := .reading none } element.blank = none := refusal?_of_suits hsuits
  have hcollect :
      (fresh (Recorded.ofCursor cursor) naming dropUnmatched force).collect element list =
        let rows := readMany (element.blank.routingForced force).isByField none
          { fresh (Recorded.ofCursor cursor) naming dropUnmatched force with
            phase := .reading none } element.blank
        { elements := rows.dests.map element.ofTarget
          reader := rows.reader
          log := rows.log } := by
    simp only [collect, fresh, start] at hshape ⊢
    rw [hshape]
  have hread := habout.readMany_leading hsuits
  refine hread.collects ⟨rfl, rfl⟩ ?_ ?_ ?_ <;> simp only [allAs, hcollect]

/-- Rows of which the second one does not suit a truth value, read into records that are
held behind a list. -/
theorem allAs_leading_flags :
    let cursor : Paged :=
      { columns := [{ name := "flag" }]
        rows := [[.bool (some true)], [.text (some "unknown")], [.bool (some false)]]
        pageSize := 2 }
    let element : ElementType Scalar (List (Destination Scalar)) :=
      { blank := .record ⟨"Entry", none⟩ (.column ⟨"flag", "flag", false⟩ ⟨.bool, false⟩ .nil)
        ofTarget := fun dest => [dest] }
    element.blank.Suits true id ["flag"] true ∧ Cursor.Holds Scalar cursor cursor.rows ∧
      CollectsLeading true id ["flag"] element cursor.rows
        ((fresh (Recorded.ofCursor cursor) .asWritten true false).allAs element []) := by
  intro cursor element
  have hsuits : element.blank.Suits (element.blank.routingForced false).isByField
      Naming.asWritten.rule (Cursor.columnNames cursor) true := ⟨_, _, rfl, Or.inl rfl⟩
  have hholds : Cursor.Holds Scalar cursor cursor.rows := holds_paged rfl rfl
  exact ⟨hsuits, hholds, allAs_leading hsuits hholds []⟩

end Reader

end RowBind
