import RowBind.Proofs.Cursor.Sending
import RowBind.Proofs.Reader.Turnout
import RowBind.Reader.Turns

/-!
# Rows in the order of their source

A reader over a cursor that yields its items one by one hands out the rows of the source in
their order, each of them once.  The rows that were read, the rows that the source still
holds, and between them a row that was refused when it was written, are all rows of the
source at any time.

A turn that brings no row is final.  Behind the end nothing is coming, and behind a failure
the reader asks for nothing.  So the turns that bring a row come first, and behind a turn
that brings none there is none.

Main statements: `Progress.readRow`, a turn keeps the account of the rows; `inOrder_turns`,
so do any calls; and `rows_in_order`, what that means for a paged cursor, a feed, and a
channel whose senders are at work.
-/

namespace RowBind

variable {σ τ : Type} [ColumnFamily τ]

/-! ## The account of the rows -/

variable [Cursor σ]

/-- The turn wrote the row into its destination. -/
def Turn.Writes (turn : Turn σ τ) (row : Row) : Prop :=
  turn.dest.write (turn.reader.routesFor turn.byField turn.dest) row = (.ok (), turn.reading.dest)

/-- The turn ended the reading since the row that was coming could not be written. -/
structure Turn.Breaks (coming : σ → List (Outcome Row)) (turn : Turn σ τ) : Prop where
  live : turn.reader.start.isSome
  /-- The row was asked for. -/
  asked : turn.reader.objection? turn.byField turn.dest = none
  refused : ∃ row items failure, coming turn.reader.cursor = .ok row :: items ∧
    (turn.dest.write (turn.reader.routesFor turn.byField turn.dest) row).1 = .error failure

/-- What is to be expected of the turns of a reader and of the reader after them, as far as
the rows of its source go. -/
structure InOrder (coming held : σ → List (Outcome Row)) (source : List Row)
    (turns : List (Turn σ τ)) (last : Reader σ) : Prop where
  /-- The turns that bring a row come first, as many as there are rows; behind a turn that
  brings none there is none. -/
  final : ∃ missed, turns.map (·.reading.delivered) =
    List.replicate last.rows true ++ List.replicate missed false
  /-- Each turn counts the rows up to it. -/
  counted : ∀ (n : Nat) (turn : Turn σ τ), turns[n]? = some turn →
    turn.reading.reader.rows = min (n + 1) last.rows
  /-- The n-th turn that brings a row was given the n-th row of the source. -/
  written : ∀ (n : Nat) (turn : Turn σ τ), turns[n]? = some turn →
    turn.reading.delivered = true → ∃ row, source[n]? = some row ∧ turn.Writes row
  /-- The source has given the rows that were read and no others. -/
  taken : (¬ ∃ turn ∈ turns, turn.Breaks coming) →
    rowsOf (held last.cursor) = source.drop last.rows
  /-- Where a row could not be written, the source has given that one more. -/
  broken : (∃ turn ∈ turns, turn.Breaks coming) →
    last.failure?.isSome ∧ last.rows < source.length ∧
      rowsOf (held last.cursor) = source.drop (last.rows + 1)
  /-- A turn that finds the end leaves its destination alone, and every row was read. -/
  ended : ∀ turn ∈ turns, turn.reading.delivered = false →
    turn.reading.reader.failure? = none →
      turn.reading.dest = turn.dest ∧ last.rows = source.length

/-- The account that is kept from turn to turn: the rows that were read, and what is left of
the items that were coming and of the rows of the source. -/
structure Progress (coming held : σ → List (Outcome Row)) (items : List (Outcome Row))
    (source : List Row) (read : List Row) (turns : List (Turn σ τ)) (reader : Reader σ) :
    Prop where
  phase_ne : reader.phase ≠ .closed
  rows_eq : reader.rows = read.length
  final : ∃ missed, turns.map (·.reading.delivered) =
    List.replicate read.length true ++ List.replicate missed false
  /-- Behind a turn that brought no row there is a reason why there is none. -/
  stopped : (∃ turn ∈ turns, turn.reading.delivered = false) →
    reader.failure?.isSome ∨ coming reader.cursor = []
  counted : ∀ (n : Nat) (turn : Turn σ τ), turns[n]? = some turn →
    turn.reading.reader.rows = min (n + 1) read.length
  written : ∀ (n : Nat) (turn : Turn σ τ), turns[n]? = some turn →
    turn.reading.delivered = true → ∃ row, read[n]? = some row ∧ turn.Writes row
  items_eq : reader.failure? = none → items = read.map .ok ++ coming reader.cursor
  taken : (¬ ∃ turn ∈ turns, turn.Breaks coming) → source = read ++ rowsOf (held reader.cursor)
  broken : (∃ turn ∈ turns, turn.Breaks coming) → reader.failure?.isSome ∧
    ∃ row, source = read ++ row :: rowsOf (held reader.cursor)
  ended : ∀ turn ∈ turns, turn.reading.delivered = false →
    turn.reading.reader.failure? = none → turn.reading.dest = turn.dest ∧ source = read

section

variable {coming held : σ → List (Outcome Row)} {items : List (Outcome Row)}
  {source read : List Row} {turns : List (Turn σ τ)} {reader : Reader σ}

/-- An entry of a list with one more entry at its end. -/
theorem getElem?_concat_eq_some {α : Type} {entries : List α} {last entry : α} {n : Nat}
    (h : (entries ++ [last])[n]? = some entry) :
    entries[n]? = some entry ∨ n = entries.length ∧ entry = last := by
  rcases Nat.lt_trichotomy n entries.length with hlt | heq | hgt
  · rw [List.getElem?_append_left hlt] at h
    exact Or.inl h
  · subst heq
    rw [List.getElem?_concat_length] at h
    exact Or.inr ⟨rfl, (Option.some.inj h).symm⟩
  · have hnone : (entries ++ [last])[n]? = none := by
      rw [List.getElem?_eq_none_iff, List.length_append, List.length_singleton]
      omega
    rw [hnone] at h
    cases h

/-- The account of a reader that is about to begin. -/
theorem Progress.fresh (cursor : σ) (naming : Naming) (dropUnmatched force : Bool) :
    Progress coming held (coming cursor) (rowsOf (held cursor)) [] ([] : List (Turn σ τ))
      (Reader.fresh cursor naming dropUnmatched force) where
  phase_ne := by simp [Reader.fresh]
  rows_eq := rfl
  final := ⟨0, rfl⟩
  stopped := by simp
  counted := by simp
  written := by simp
  items_eq := fun _ => rfl
  taken := fun _ => rfl
  broken := by simp
  ended := by simp

/-- What is to be expected follows from the account. -/
theorem Progress.inOrder (h : Progress coming held items source read turns reader) :
    InOrder coming held source turns reader where
  final := h.rows_eq ▸ h.final
  counted := h.rows_eq ▸ h.counted
  written n turn hturn hdelivered := by
    obtain ⟨row, hrow, hwrites⟩ := h.written n turn hturn hdelivered
    refine ⟨row, ?_, hwrites⟩
    have hlt : n < read.length := (List.getElem?_eq_some_iff.mp hrow).1
    by_cases hbroken : ∃ turn ∈ turns, turn.Breaks coming
    · obtain ⟨-, other, hsource⟩ := h.broken hbroken
      rw [hsource, List.getElem?_append_left hlt, hrow]
    · rw [h.taken hbroken, List.getElem?_append_left hlt, hrow]
  taken hfine := by
    rw [h.taken hfine, h.rows_eq, List.drop_left]
  broken hbroken := by
    obtain ⟨hfailed, row, hsource⟩ := h.broken hbroken
    refine ⟨hfailed, ?_, ?_⟩
    · rw [hsource, h.rows_eq, List.length_append, List.length_cons]
      omega
    · rw [hsource, h.rows_eq, ← List.drop_drop, List.drop_left]
      rfl
  ended turn hmem hmissed hfine := by
    obtain ⟨hsame, hsource⟩ := h.ended turn hmem hmissed hfine
    exact ⟨hsame, by rw [h.rows_eq, hsource]⟩

/-! ## Turn by turn -/

/-- A turn that brings no row is put behind the others.  What it means for the items and for
the source is left open. -/
theorem Progress.concat (h : Progress coming held items source read turns reader)
    {turn : Turn σ τ} (hnone : turn.reading.delivered = false)
    (hopen : turn.reading.reader.phase ≠ .closed)
    (hrows : turn.reading.reader.rows = reader.rows)
    (hstopped : turn.reading.reader.failure?.isSome ∨ coming turn.reading.reader.cursor = [])
    (hitems : turn.reading.reader.failure? = none →
      items = read.map .ok ++ coming turn.reading.reader.cursor)
    (htaken : (¬ ∃ other ∈ turns ++ [turn], other.Breaks coming) →
      source = read ++ rowsOf (held turn.reading.reader.cursor))
    (hbroken : (∃ other ∈ turns ++ [turn], other.Breaks coming) →
      turn.reading.reader.failure?.isSome ∧
        ∃ row, source = read ++ row :: rowsOf (held turn.reading.reader.cursor))
    (hended : turn.reading.reader.failure? = none →
      turn.reading.dest = turn.dest ∧ source = read) :
    Progress coming held items source read (turns ++ [turn]) turn.reading.reader where
  phase_ne := hopen
  rows_eq := hrows.trans h.rows_eq
  final := by
    obtain ⟨missed, hmap⟩ := h.final
    refine ⟨missed + 1, ?_⟩
    rw [List.map_append, hmap, List.map_singleton, hnone, List.replicate_succ',
      List.append_assoc]
  stopped _ := hstopped
  counted n other hother := by
    rcases getElem?_concat_eq_some hother with hold | ⟨rfl, rfl⟩
    · exact h.counted n other hold
    · obtain ⟨missed, hmap⟩ := h.final
      have hlength := congrArg List.length hmap
      simp only [List.length_map, List.length_append, List.length_replicate] at hlength
      rw [hrows, h.rows_eq]
      omega
  written n other hother hdelivered := by
    rcases getElem?_concat_eq_some hother with hold | ⟨rfl, rfl⟩
    · exact h.written n other hold hdelivered
    · rw [hnone] at hdelivered
      cases hdelivered
  items_eq := hitems
  taken := htaken
  broken := hbroken
  ended other hmem hmissed hfine := by
    rcases List.mem_append.mp hmem with hold | hnew
    · exact h.ended other hold hmissed hfine
    · rw [List.mem_singleton.mp hnew] at hfine ⊢
      exact hended hfine

/-- A turn that brings no row takes none either, unless it breaks the reading. -/
theorem Progress.missed (h : Progress coming held items source read turns reader)
    (hall : ∀ rows, items = rows.map .ok → source = rows)
    {turn : Turn σ τ} (hnone : turn.reading.delivered = false)
    (hopen : turn.reading.reader.phase ≠ .closed)
    (hrows : turn.reading.reader.rows = reader.rows)
    (hheld : rowsOf (held turn.reading.reader.cursor) = rowsOf (held reader.cursor))
    (hbreaks : ¬ turn.Breaks coming)
    (hkept : reader.failure?.isSome → turn.reading.reader.failure?.isSome)
    (hstopped : turn.reading.reader.failure?.isSome ∨ coming reader.cursor = [] ∧
      coming turn.reading.reader.cursor = [] ∧ turn.reading.dest = turn.dest) :
    Progress coming held items source read (turns ++ [turn]) turn.reading.reader := by
  have hold : (∃ other ∈ turns ++ [turn], other.Breaks coming) ↔
      ∃ other ∈ turns, other.Breaks coming := by
    simp [or_and_right, exists_or, hbreaks]
  -- a turn that does not fail has found the end
  have hend : turn.reading.reader.failure? = none → items = read.map .ok ∧
      coming turn.reading.reader.cursor = [] ∧ turn.reading.dest = turn.dest := by
    intro hfine
    have hbefore : reader.failure? = none := by
      cases hfailed : reader.failure? with
      | none => rfl
      | some failure => simp [hfine, hfailed] at hkept
    rcases hstopped with hfailed | ⟨hcoming, hnext, hsame⟩
    · simp [hfine] at hfailed
    · have hitems := h.items_eq hbefore
      rw [hcoming, List.append_nil] at hitems
      exact ⟨hitems, hnext, hsame⟩
  refine h.concat hnone hopen hrows (hstopped.imp_right fun hstop => hstop.2.1) ?_ ?_ ?_ ?_
  · intro hfine
    obtain ⟨hitems, hnext, -⟩ := hend hfine
    rw [hnext, List.append_nil, hitems]
  · intro hfine
    rw [hheld]
    exact h.taken fun hbefore => hfine (hold.mpr hbefore)
  · intro hbroken
    obtain ⟨hfailed, row, hsource⟩ := h.broken (hold.mp hbroken)
    exact ⟨hkept hfailed, row, hheld ▸ hsource⟩
  · intro hfine
    obtain ⟨hitems, -, hsame⟩ := hend hfine
    exact ⟨hsame, hall read hitems⟩

/-- A reader that has not failed has written every row that it was given. -/
theorem Progress.unbroken (h : Progress coming held items source read turns reader)
    (hfine : reader.failure? = none) : ¬ ∃ turn ∈ turns, turn.Breaks coming := by
  intro hbroken
  have hfailed := (h.broken hbroken).1
  simp [hfine] at hfailed

/-- As long as items are coming to a reader that has not failed, every turn has brought a
row. -/
theorem Progress.all_delivered (h : Progress coming held items source read turns reader)
    (hfine : reader.failure? = none) (hcoming : coming reader.cursor ≠ []) :
    ∀ turn ∈ turns, turn.reading.delivered = true := by
  intro turn hmem
  rw [← Bool.not_eq_false]
  intro hmissed
  rcases h.stopped ⟨turn, hmem, hmissed⟩ with hfailed | hend
  · simp [hfine] at hfailed
  · exact hcoming hend

/-- There are as many rows as turns if every turn has brought one. -/
theorem Progress.length_eq (h : Progress coming held items source read turns reader)
    (hall : ∀ turn ∈ turns, turn.reading.delivered = true) : turns.length = read.length := by
  obtain ⟨missed, hmap⟩ := h.final
  rw [List.map_congr_left hall, List.map_const'] at hmap
  cases missed with
  | zero => simpa using congrArg List.length hmap
  | succ missed =>
      have hmem : false ∈ List.replicate turns.length true := by
        rw [hmap]
        simp
      cases (List.mem_replicate.mp hmem).2

/-- A turn that breaks the reading takes the row that it was given. -/
theorem Progress.refused (h : Progress coming held items source read turns reader)
    (hfine : reader.failure? = none) {turn : Turn σ τ}
    (hnone : turn.reading.delivered = false)
    (hopen : turn.reading.reader.phase ≠ .closed)
    (hrows : turn.reading.reader.rows = reader.rows) {row : Row}
    (hheld : held reader.cursor = .ok row :: held turn.reading.reader.cursor)
    (hbreaks : turn.Breaks coming) (hfailed : turn.reading.reader.failure?.isSome) :
    Progress coming held items source read (turns ++ [turn]) turn.reading.reader := by
  have hnew : ∃ other ∈ turns ++ [turn], other.Breaks coming :=
    ⟨turn, List.mem_append_right turns List.mem_cons_self, hbreaks⟩
  refine h.concat hnone hopen hrows (Or.inl hfailed) ?_ ?_ ?_ ?_
  · intro hnofail
    simp [hnofail] at hfailed
  · intro hno
    exact absurd hnew hno
  · intro _
    refine ⟨hfailed, row, ?_⟩
    rw [h.taken (h.unbroken hfine), hheld, rowsOf_ok]
  · intro hnofail
    simp [hnofail] at hfailed

/-- A turn that brings a row is put behind turns that did so too. -/
theorem Progress.delivered (h : Progress coming held items source read turns reader)
    (hfine : reader.failure? = none) {turn : Turn σ τ}
    (hdelivered : turn.reading.delivered = true)
    (hopen : turn.reading.reader.phase ≠ .closed)
    (hrows : turn.reading.reader.rows = reader.rows + 1) {row : Row}
    (hcoming : coming reader.cursor = .ok row :: coming turn.reading.reader.cursor)
    (hheld : held reader.cursor = .ok row :: held turn.reading.reader.cursor)
    (hwrites : turn.Writes row) (hbreaks : ¬ turn.Breaks coming) :
    Progress coming held items source (read ++ [row]) (turns ++ [turn])
      turn.reading.reader := by
  have hbefore := h.all_delivered hfine (by simp [hcoming])
  have hlength := h.length_eq hbefore
  have hall : ∀ other ∈ turns ++ [turn], other.reading.delivered = true := by
    intro other hmem
    rcases List.mem_append.mp hmem with hold | hnew
    · exact hbefore other hold
    · rw [List.mem_singleton.mp hnew, hdelivered]
  have hunbroken : ¬ ∃ other ∈ turns ++ [turn], other.Breaks coming := by
    rintro ⟨other, hmem, hbroken⟩
    rcases List.mem_append.mp hmem with hold | hnew
    · exact h.unbroken hfine ⟨other, hold, hbroken⟩
    · exact hbreaks (List.mem_singleton.mp hnew ▸ hbroken)
  have hnone : ∀ other ∈ turns ++ [turn], ¬ other.reading.delivered = false := by
    intro other hmem
    simp [hall other hmem]
  refine
    { phase_ne := hopen
      rows_eq := by rw [hrows, h.rows_eq, List.length_append, List.length_singleton]
      final := ⟨0, ?_⟩
      stopped := fun ⟨other, hmem, hmissed⟩ => absurd hmissed (hnone other hmem)
      counted := ?_
      written := ?_
      items_eq := ?_
      taken := ?_
      broken := fun hbroken => absurd hbroken hunbroken
      ended := fun other hmem hmissed => absurd hmissed (hnone other hmem) }
  · rw [List.map_congr_left hall, List.map_const', List.length_append, hlength]
    simp
  · intro n other hother
    rw [List.length_append, List.length_singleton]
    rcases getElem?_concat_eq_some hother with hold | ⟨rfl, rfl⟩
    · have hlt := (List.getElem?_eq_some_iff.mp hold).1
      rw [h.counted n other hold]
      omega
    · rw [hrows, h.rows_eq]
      omega
  · intro n other hother _
    rcases getElem?_concat_eq_some hother with hold | ⟨rfl, rfl⟩
    · obtain ⟨written, hwritten, hwrote⟩ :=
        h.written n other hold (hbefore other (List.mem_of_getElem? hold))
      refine ⟨written, ?_, hwrote⟩
      rw [List.getElem?_append_left (List.getElem?_eq_some_iff.mp hwritten).1, hwritten]
    · refine ⟨row, ?_, hwrites⟩
      rw [hlength, List.getElem?_concat_length]
  · intro _
    rw [h.items_eq hfine, hcoming]
    simp
  · intro _
    rw [h.taken (h.unbroken hfine), hheld, rowsOf_ok]
    simp

/-- **A turn keeps the account.** -/
theorem Progress.readRow (hyields : Cursor.Yields coming held)
    (hall : ∀ rows, items = rows.map .ok → source = rows)
    (h : Progress coming held items source read turns reader) (byField : Bool)
    (dest : Destination τ) :
    ∃ read, Progress coming held items source read
      (turns ++ [{ byField, reader, dest, reading := reader.readRow byField dest }])
      (reader.readRow byField dest).reader := by
  have hopen := (Reader.step_readRow byField reader dest).phase_ne h.phase_ne
  have hturnout := Reader.turnout_readRow hyields byField reader dest
  generalize reader.readRow byField dest = reading at hopen hturnout ⊢
  cases hturnout with
  | idle hstart =>
      have hfailed : reader.failure?.isSome := by
        rw [Option.isSome_iff_ne_none]
        intro hfine
        have hlive := Reader.isSome_start_of_fine h.phase_ne hfine
        simp [hstart] at hlive
      refine ⟨read, h.missed hall rfl hopen rfl rfl ?_ id (Or.inl hfailed)⟩
      intro hbreaks
      have hlive := hbreaks.live
      simp [hstart] at hlive
  | refused hlive hobjection hcursor hrows hfailed log =>
      have hsome : _ := Option.isSome_of_eq_some hfailed
      refine ⟨read, h.missed hall rfl hopen hrows (by rw [← hcursor]; rfl) ?_ (fun _ => hsome)
        (Or.inl hsome)⟩
      intro hbreaks
      have hasked := hbreaks.asked
      simp [hobjection] at hasked
  | ended hlive hcoming hnext hheld hrows hfine log =>
      refine ⟨read, h.missed hall rfl hopen hrows (congrArg rowsOf hheld) ?_ ?_
        (Or.inr ⟨hcoming, hnext, rfl⟩)⟩
      · intro hbreaks
        obtain ⟨row, items, failure, hrow, -⟩ := hbreaks.refused
        simp [hcoming] at hrow
      · intro hfailed
        simp [Reader.failure?_of_start hlive] at hfailed
  | failed hlive hcoming hheld hrows hfailed log =>
      refine ⟨read, h.missed hall rfl hopen hrows hheld ?_ (fun _ => hfailed) (Or.inl hfailed)⟩
      intro hbreaks
      obtain ⟨row, items, failure, hrow, -⟩ := hbreaks.refused
      simp [hcoming] at hrow
  | broken hlive hasked hcoming hheld hrows hfailed hwrite left log =>
      refine ⟨read, h.refused (Reader.failure?_of_start hlive) rfl hopen hrows hheld ?_ hfailed⟩
      exact ⟨hlive, hasked, _, _, _, hcoming, hwrite⟩
  | @taken hlive row others hcoming after hnext hheld hrows hfine written hwrite log =>
      refine ⟨read ++ [row], h.delivered (Reader.failure?_of_start hlive) rfl hopen hrows ?_ hheld
        hwrite ?_⟩
      · rw [hcoming, hnext]
      · intro hbreaks
        obtain ⟨other, _, failure, hother, hrefused⟩ := hbreaks.refused
        rw [hcoming, List.cons.injEq, Except.ok.injEq] at hother
        rw [← hother.1, hwrite] at hrefused
        cases hrefused

/-- A turn of records that have come to their end keeps the account. -/
theorem Progress.spared (hall : ∀ rows, items = rows.map .ok → source = rows)
    (h : Progress coming held items source read turns reader) (dest : Destination τ)
    (hmissed : ∃ turn ∈ turns, turn.reading.delivered = false) :
    Progress coming held items source read (turns ++
      [{ byField := true, reader, dest, reading := Reader.nothing reader dest [] }]) reader := by
  have hstopped := h.stopped hmissed
  refine h.missed hall rfl h.phase_ne rfl rfl ?_ id (hstopped.imp_right fun hend =>
    ⟨hend, hend, rfl⟩)
  intro hbreaks
  obtain ⟨row, others, failure, hrow, -⟩ := hbreaks.refused
  rcases hstopped with hfailed | hend
  · simp [Reader.failure?_of_start hbreaks.live] at hfailed
  · simp [hend] at hrow

end

/-- **Calls keep the rows in order**, over any cursor that yields its items and to which all
rows of its source are coming, up to a failure. -/
theorem inOrder_turns {coming held : σ → List (Outcome Row)}
    (hyields : Cursor.Yields coming held) (cursor : σ)
    (hall : ∀ rows, coming cursor = rows.map .ok → rowsOf (held cursor) = rows)
    (naming : Naming) (dropUnmatched force : Bool) (calls : List (Call τ)) :
    let reader := Reader.fresh cursor naming dropUnmatched force
    InOrder coming held (rowsOf (held cursor)) (reader.turns calls) (reader.after calls) := by
  intro reader
  have hprogress : ∃ read, Progress coming held (coming cursor) (rowsOf (held cursor)) read
      (reader.turns calls) (reader.after calls) := by
    refine Reader.turns_induction (P := fun turns after => ∃ read,
      Progress coming held (coming cursor) (rowsOf (held cursor)) read turns after) ?_ ?_ ?_ calls
    · rintro turns after byField dest ⟨read, h⟩
      exact h.readRow hyields hall byField dest
    · rintro turns after dest ⟨read, h⟩ hmissed
      exact ⟨read, h.spared hall dest hmissed⟩
    · exact ⟨[], Progress.fresh cursor naming dropUnmatched force⟩
  obtain ⟨read, h⟩ := hprogress
  exact h.inOrder

/-! ## The cursors of the library -/

/-- **Rows are read in order, each of them once, and the end is final.**  It is so for any
calls on a reader over a paged cursor, with any size of its pages and any failure that it was
told to meet, over a feed, and over a channel, whatever its senders do and whenever they do
it. -/
theorem rows_in_order (columns : List ColumnInfo) (rows : List Row) (size : Nat)
    (failAt : Option Nat) (closeError : Option String) (items : List (Outcome Row))
    (hint room : Nat) (batches : List (List SenderAct)) (naming : Naming)
    (dropUnmatched force : Bool) (calls : List (Call τ)) :
    let paged := Reader.fresh (Paged.withPageSize { columns, rows, failAt, closeError } size)
      naming dropUnmatched force
    let feed := Reader.fresh ({ columns, items, hint } : Feed) naming dropUnmatched force
    let channel := Reader.fresh ({ channel := .ofSize columns room, batches } : Attended)
      naming dropUnmatched force
    InOrder Paged.coming Paged.held rows (paged.turns calls) (paged.after calls) ∧
      InOrder Feed.coming Feed.items (rowsOf items) (feed.turns calls) (feed.after calls) ∧
      InOrder Attended.coming Attended.held (rowsOf (sentBy 1 batches.flatten))
        (channel.turns calls) (channel.after calls) := by
  intro paged feed channel
  refine ⟨?_, ?_, ?_⟩
  · have hsource : rowsOf paged.cursor.held = rows := rowsOf_map_ok rows
    have hall : ∀ lead, paged.cursor.coming = lead.map .ok → rowsOf paged.cursor.held = lead :=
      fun lead hlead => hsource.trans (Paged.eq_of_itemsFrom hlead)
    have hturns := inOrder_turns yields_paged paged.cursor hall naming dropUnmatched force calls
    rwa [hsource] at hturns
  · have hall : ∀ lead, feed.cursor.coming = lead.map .ok → rowsOf feed.cursor.items = lead := by
      intro lead hlead
      have hitems : feed.cursor.items = lead.map .ok := hlead
      rw [hitems, rowsOf_map_ok]
    exact inOrder_turns yields_feed feed.cursor hall naming dropUnmatched force calls
  · have hall : ∀ lead, channel.cursor.coming = lead.map .ok →
        rowsOf channel.cursor.held = lead := by
      intro lead hlead
      have hrows := congrArg rowsOf hlead
      rwa [rowsOf_map_ok, Attended.rowsOf_coming rfl] at hrows
    exact inOrder_turns yields_attended channel.cursor hall naming dropUnmatched force calls

end RowBind
