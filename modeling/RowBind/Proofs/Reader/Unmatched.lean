import RowBind.Column.Scalar.Convert
import RowBind.Proofs.Cursor.Deleting
import RowBind.Proofs.Reader.SingleRow
import RowBind.Proofs.Reader.Strict
import RowBind.Proofs.Reader.Turnout

/-!
# Columns without a field

A reader that drops columns without a field reads a result as if it did not have them: it
delivers the same records as a strict reader does that is given the result without these
columns, counts the same rows, and fails where that one fails.  Only the reasons differ, since
they tell of positions.  Every row of the result needs a value for each column, or the values
behind the missing one would move.

Main statements: `Narrowed.readRow`, a row is read alike; `lockstep_narrowed`, the two readers
go in lockstep; and `unmatched_columns`, what follows for the records that are read.
-/

namespace RowBind

open Reader

variable {σ ρ τ ε : Type} [ColumnFamily τ]

/-! ## What a caller is told apart from reasons -/

/-- What a caller sees of a turn, but for the reason of a failure. -/
structure Gist (τ : Type) [ColumnFamily τ] where
  delivered : Bool
  dest : Destination τ
  rows : Nat
  failed : Bool

/-- What a caller sees of a reading, but for the reason of a failure. -/
def Reading.gist (reading : Reading σ τ) : Gist τ :=
  { delivered := reading.delivered
    dest := reading.dest
    rows := reading.reader.rows
    failed := reading.reader.failure?.isSome }

/-- What a caller sees of turns, but for the reasons of failures. -/
def gistOf (turns : List (Turn σ τ)) : List (Gist τ) :=
  turns.map (·.reading.gist)

/-- A row is read by field into a record of the layout. -/
def ReadsInto (layout : Layout) (byField : Bool) (dest : Destination τ) : Prop :=
  byField = true ∧ ∃ info fields, dest = .record info fields ∧ fields.layout = layout

/-! ## A result without some of its columns -/

section

variable {rule : NameRule} {columns : List String}

/-- The slots of the columns that are left are those they had. -/
theorem Destination.slotsFor_keepWhere (info : RecordInfo τ) (fields : Record τ) :
    (Destination.record info fields).slotsFor true rule
        (keepWhere (fields.layout.mask rule columns) columns) =
      keepWhere (fields.layout.mask rule columns)
        ((Destination.record info fields).slotsFor true rule columns) := by
  simp only [slotsFor, if_true, claims, Layout.routes_keepWhere, Layout.mask_eq,
    claimsFrom_keepWhere, keepWhere_map]

/-- They hold what they held, so the leaves are put back as before. -/
theorem Destination.ofSlots_keepWhere (info : RecordInfo τ) (fields : Record τ)
    {slots : List (Slot τ)} (hlength : slots.length = columns.length) :
    (Destination.record info fields).ofSlots true rule
        (keepWhere (fields.layout.mask rule columns) columns)
        (keepWhere (fields.layout.mask rule columns) slots) =
      (Destination.record info fields).ofSlots true rule columns slots := by
  have hroutes : slots.length = (fields.layout.routes rule columns).length := by
    simpa [Layout.routes] using hlength
  simp only [ofSlots, if_true, claims, Layout.routes_keepWhere, Layout.mask_eq,
    claimsFrom_keepWhere, putBack_keepWhere _ _ hroutes]

theorem Destination.covers_slotsFor (info : RecordInfo τ) (fields : Record τ) :
    Covers (fields.layout.mask rule columns)
      ((Destination.record info fields).slotsFor true rule columns) := by
  rw [Layout.mask_eq]
  exact covers_claimsFrom fields.cells fields.cells.length [] (fields.layout.routes rule columns)

/-- Every column that is left has a leaf that answers to its name. -/
theorem answers_of_mem_keepWhere {fields : Record τ} {name : String}
    (h : name ∈ keepWhere (fields.layout.mask rule columns) columns) :
    ∃ k, fields.Answers rule name k := by
  obtain ⟨entry, hentry⟩ := Option.isSome_iff_exists.mp (Layout.isSome_of_mem_keepWhere h)
  exact ⟨entry.slot, NameTable.find?_slot_eq_some_iff.mp (by rw [hentry]; rfl)⟩

end

/-- A reader that is open has failed or is at work. -/
theorem Reader.failure?_isSome_iff {reader : Reader σ} (hopen : reader.phase ≠ .closed) :
    reader.failure?.isSome ↔ ¬ reader.start.isSome := by
  constructor
  · intro hfailed hlive
    simp [failure?_of_start hlive] at hfailed
  · intro hidle
    by_contra hfine
    exact hidle (isSome_start_of_fine hopen (by simpa using hfine))

/-- Whether a reader is at work is a matter of its phase. -/
theorem Reader.start_isSome_congr {a : Reader σ} {b : Reader ρ} (h : a.phase = b.phase) :
    a.start.isSome = b.start.isSome := by
  cases hphase : b.phase <;> simp_all [start]

/-- Fetches that differ in the reason of a failure only are settled alike, but for that. -/
theorem Reader.settled_alike_of_toOption {a : Reader σ} {b : Reader ρ}
    {outcome other : Outcome Bool} (houtcome : other.toOption = outcome.toOption)
    (hrows : b.rows = a.rows) (hlive : a.start.isSome) (hlive' : b.start.isSome)
    (dest : Destination τ) (log log' : Log) :
    let reading := settled a outcome dest log
    let reading' := settled b other dest log'
    reading'.delivered = reading.delivered ∧ reading'.dest = reading.dest ∧
      reading'.reader.rows = reading.reader.rows ∧
      (reading.reader.start.isSome ↔ reading'.reader.start.isSome) := by
  rcases outcome with failure | delivered
  · rcases other with failure' | delivered'
    · exact ⟨rfl, rfl, hrows, Iff.rfl⟩
    · cases houtcome
  · rcases other with failure' | delivered'
    · cases houtcome
    · obtain rfl : delivered' = delivered := Option.some.inj houtcome
      cases delivered' with
      | true =>
          have hstill : ({ a with rows := a.rows + 1 } : Reader σ).start.isSome =
              a.start.isSome := start_isSome_congr rfl
          have hstill' : ({ b with rows := b.rows + 1 } : Reader ρ).start.isSome =
              b.start.isSome := start_isSome_congr rfl
          exact ⟨rfl, rfl, congrArg (· + 1) hrows,
            iff_of_true (hstill.trans hlive) (hstill'.trans hlive')⟩
      | false => exact ⟨rfl, rfl, hrows, iff_of_true hlive hlive'⟩

theorem Reader.settled_force (reader : Reader σ) (outcome : Outcome Bool) (dest : Destination τ)
    (log : Log) : (settled reader outcome dest log).reader.force = reader.force := by
  unfold settled
  split <;> rfl

section

variable [Cursor σ] [Cursor ρ]

/-- The first reader drops columns without a field, and the second one is strict but has a
result without them. -/
structure Narrowed (rule : NameRule) (columns : List String) (layout : Layout) (narrow : σ → ρ)
    (aligned : σ → Prop) (a : Reader σ) (b : Reader ρ) : Prop where
  wide : a.RoutedFor rule columns true layout
  strict : b.RoutedFor rule (keepWhere (layout.mask rule columns) columns) false layout
  cursor_eq : b.cursor = narrow a.cursor
  aligned : aligned a.cursor
  rows_eq : b.rows = a.rows
  force_eq : b.force = a.force
  live_iff : a.start.isSome ↔ b.start.isSome
  unclosed : a.phase ≠ .closed ∧ b.phase ≠ .closed

variable {rule : NameRule} {columns : List String} {layout : Layout} {narrow : σ → ρ}
  {aligned : σ → Prop} {a : Reader σ} {b : Reader ρ}

theorem Narrowed.failed_eq (h : Narrowed rule columns layout narrow aligned a b) :
    a.failure?.isSome = b.failure?.isSome := by
  rw [Bool.eq_iff_iff, failure?_isSome_iff h.unclosed.1, failure?_isSome_iff h.unclosed.2,
    h.live_iff]

/-- Readings of fetches that turned out alike agree. -/
theorem narrowed_settled {outcome other : Outcome Bool} {dest : Destination τ} {log log' : Log}
    (hwide : (settled a outcome dest log).reader.RoutedFor rule columns true layout)
    (hstrict : (settled b other dest log').reader.RoutedFor rule
      (keepWhere (layout.mask rule columns) columns) false layout)
    (houtcome : other.toOption = outcome.toOption) (hcursor : b.cursor = narrow a.cursor)
    (haligned : aligned a.cursor) (hrows : b.rows = a.rows) (hforce : b.force = a.force)
    (hlive : a.start.isSome) (hlive' : b.start.isSome) :
    (settled a outcome dest log).Agrees False (Narrowed rule columns layout narrow aligned)
      (settled b other dest log') := by
  obtain ⟨hdelivered, hdest, hcount, hstart⟩ :=
    settled_alike_of_toOption houtcome hrows hlive hlive' dest log log'
  have hopen : a.phase ≠ .closed := fun hclosed => by simp [start, hclosed] at hlive
  have hopen' : b.phase ≠ .closed := fun hclosed => by simp [start, hclosed] at hlive'
  refine ⟨hdelivered.symm, hdest.symm, False.elim, hwide, hstrict, ?_, ?_, hcount, ?_, hstart,
    settled_phase_ne hopen _ _ _, settled_phase_ne hopen' _ _ _⟩
  · rw [settled_cursor, settled_cursor, hcursor]
  · rw [settled_cursor]
    exact haligned
  · rw [settled_force, settled_force, hforce]

/-- **A row is read alike** by a reader that drops columns, and by a strict one that does not
have them. -/
theorem Narrowed.readRow (hdeletes : Deletes (layout.mask rule columns) narrow aligned)
    (h : Narrowed rule columns layout narrow aligned a b) {byField : Bool} {dest : Destination τ}
    (hreads : ReadsInto layout byField dest) :
    (a.readRow byField dest).Agrees False (Narrowed rule columns layout narrow aligned)
      (b.readRow byField dest) := by
  obtain ⟨rfl, info, fields, rfl, rfl⟩ := hreads
  cases hlive : a.start.isSome with
  | false =>
      have hnone : ¬ a.start.isSome := by simp [hlive]
      have hidle := Option.not_isSome_iff_eq_none.mp hnone
      have hidle' := Option.not_isSome_iff_eq_none.mp (mt h.live_iff.mpr hnone)
      rw [readRow_idle hidle, readRow_idle hidle']
      exact ⟨rfl, rfl, False.elim, h⟩
  | true =>
      have hlive' := h.live_iff.mp hlive
      -- both ask their cursors, the strict reader through the slots that are left
      obtain ⟨halike, haligned⟩ :=
        hdeletes.fetch h.aligned (Destination.covers_slotsFor info fields)
      have hfetch' : b.fetchFor true rule (keepWhere (fields.layout.mask rule columns) columns)
          (.record info fields) = Cursor.fetch (narrow a.cursor)
            (keepWhere (fields.layout.mask rule columns)
              ((Destination.record info fields).slotsFor true rule columns)) := by
        rw [fetchFor, h.cursor_eq, Destination.slotsFor_keepWhere]
      have hcount : (a.fetchFor true rule columns (.record info fields)).slots.length =
          columns.length := by
        rw [fetchFor, halike.length_eq, (Destination.covers_slotsFor info fields).length_eq,
          Layout.mask, List.length_map]
      obtain ⟨naming, log, hread⟩ := h.wide.readFields_eq info hlive (Or.inl rfl)
      obtain ⟨naming', log', hread'⟩ :=
        h.strict.readFields_eq info hlive' (Or.inr fun _ hname => answers_of_mem_keepWhere hname)
      rw [hfetch', halike.slots_eq, halike.cursor_eq] at hread'
      rw [fetchFor] at hcount hread
      rw [Destination.ofSlots_keepWhere info fields hcount] at hread'
      have hwide : (a.readRow true (.record info fields)).reader.RoutedFor rule columns true
          fields.layout := h.wide.readRow fun _ => rfl
      have hstrict : (b.readRow true (.record info fields)).reader.RoutedFor rule
          (keepWhere (fields.layout.mask rule columns) columns) false fields.layout :=
        h.strict.readRow fun _ => rfl
      simp only [Reader.readRow, if_true, hread, hread'] at hwide hstrict ⊢
      exact narrowed_settled hwide hstrict halike.outcome rfl haligned h.rows_eq h.force_eq rfl rfl

/-- A reader at work has its routes, if it knows any, from its layout. -/
theorem Reader.RoutedFor.of_start {reader started : Reader σ} {dropUnmatched : Bool}
    (h : reader.RoutedFor rule columns dropUnmatched layout)
    (hstart : reader.start = some started) :
    started.RoutedFor rule columns dropUnmatched layout := by
  obtain ⟨routes?, rfl, hphase⟩ := eq_of_start hstart
  refine ⟨h.rule_eq, h.columns_eq, h.dropUnmatched_eq, fun routes hroutes => ?_⟩
  obtain rfl : routes? = some routes := by simpa using hroutes
  rcases hphase with hreading | ⟨-, hnone⟩
  · exact h.routes_eq routes hreading
  · cases hnone

/-- **A reader that drops columns and a strict one go in lockstep**, over a result with these
columns and without them. -/
theorem lockstep_narrowed (hdeletes : Deletes (layout.mask rule columns) narrow aligned) :
    Lockstep (ReadsInto (τ := τ) layout) False (Narrowed rule columns layout narrow aligned) where
  readRow h _ _ hreads := h.readRow hdeletes hreads
  start {a b} h := by
    cases hstart : a.start with
    | none =>
        have hidle : ¬ b.start.isSome := fun hlive => by simpa [hstart] using h.live_iff.mpr hlive
        exact Or.inl ⟨rfl, Option.not_isSome_iff_eq_none.mp hidle⟩
    | some started =>
        obtain ⟨other, hother⟩ := Option.isSome_iff_exists.mp (h.live_iff.mp (by simp [hstart]))
        have hwide := h.wide.of_start hstart
        have hstrict := h.strict.of_start hother
        obtain ⟨routes, rfl, -⟩ := eq_of_start hstart
        obtain ⟨routes', rfl, -⟩ := eq_of_start hother
        exact Or.inr ⟨_, _, rfl, hother, hwide, hstrict, h.cursor_eq, h.aligned, h.rows_eq,
          h.force_eq, iff_of_true rfl rfl, nofun, nofun⟩

/-- Readers start out alike. -/
theorem narrowed_fresh {cursor : σ} {naming naming' : Naming}
    (hdeletes : Deletes (layout.mask naming.rule (Cursor.columnNames cursor)) narrow aligned)
    (hrule : naming'.rule = naming.rule) (haligned : aligned cursor) (force : Bool) :
    Narrowed naming.rule (Cursor.columnNames cursor) layout narrow aligned
      (Reader.fresh cursor naming true force)
      (Reader.fresh (narrow cursor) naming' false force) := by
  have hcolumns : Cursor.columnNames (narrow cursor) =
      keepWhere (layout.mask naming.rule (Cursor.columnNames cursor))
        (Cursor.columnNames cursor) := by
    rw [Cursor.columnNames, hdeletes.columns, ← keepWhere_map]
    rfl
  have hstrict := RoutedFor.fresh (narrow cursor) naming' false force layout
  rw [hrule, hcolumns] at hstrict
  exact ⟨.fresh cursor naming true force layout, hstrict, rfl, haligned, rfl, rfl, Iff.rfl,
    by simp [Reader.fresh], by simp [Reader.fresh]⟩

/-- The readers turn out alike in the end. -/
theorem Narrowed.close (hdeletes : Deletes (layout.mask rule columns) narrow aligned)
    (h : Narrowed rule columns layout narrow aligned a b) :
    b.close.outcome.toOption = a.close.outcome.toOption ∧
      b.close.reader.rows = a.close.reader.rows := by
  refine ⟨?_, by rw [close_rows, close_rows, h.rows_eq]⟩
  have hclose : (Cursor.close b.cursor).1 = (Cursor.close a.cursor).1 := by
    rw [h.cursor_eq, hdeletes.close]
  have hfailed := h.failed_eq
  rw [close_outcome h.unclosed.1, close_outcome h.unclosed.2, hclose]
  cases hwide : a.failure? <;> cases hstrict : b.failure? <;> simp_all [Except.toOption]

/-- Nothing speaks against records as such. -/
theorem refusal?_eq_none {reader : Reader σ} {dest : Destination τ}
    (h : ReadsInto layout (dest.routingForced reader.force).isByField dest) :
    reader.refusal? dest = none := by
  obtain ⟨hby, info, fields, rfl, -⟩ := h
  simp [refusal?, hby, Destination.isRecord]

/-! ## What is read -/

/-- A reader reads into records of a layout what another one reads: calls bring the same
about, and so does reading everything else at once. -/
structure ReadsAlike (τ ε : Type) [ColumnFamily τ] [FiniteCursor σ] [FiniteCursor ρ]
    (layout : Layout) (a : Reader σ) (b : Reader ρ) : Prop where
  turns : ∀ {calls : List (Call τ)}, (∀ call ∈ calls, call.All (ReadsInto layout)) →
    gistOf (b.turns calls) = gistOf (a.turns calls)
  first : ∀ {dest : Destination τ},
    ReadsInto layout (dest.routingForced a.force).isByField dest →
      (b.first dest).result = (a.first dest).result ∧
        (b.first dest).reader.rows = (a.first dest).reader.rows ∧
        (b.first dest).outcome.toOption = (a.first dest).outcome.toOption
  records : ∀ {blank : Destination τ}, ReadsInto layout true blank → ∀ limit,
    (b.records limit blank).dests = (a.records limit blank).dests ∧
      (b.records limit blank).reader.rows = (a.records limit blank).reader.rows ∧
      (b.records limit blank).reader.failure?.isSome =
        (a.records limit blank).reader.failure?.isSome
  allAs : ∀ {element : ElementType τ ε},
    ReadsInto layout (element.blank.routingForced a.force).isByField element.blank → ∀ list,
      (b.allAs element list).result = (a.allAs element list).result ∧
        (b.allAs element list).reader.rows = (a.allAs element list).reader.rows ∧
        (b.allAs element list).outcome.toOption = (a.allAs element list).outcome.toOption
  close : b.close.outcome.toOption = a.close.outcome.toOption ∧
    b.close.reader.rows = a.close.reader.rows

/-- Turns that are taken alike come to the same. -/
theorem gist_of_narrowed {turn : Turn σ τ} {other : Turn ρ τ}
    (h : turn.Agrees False (Narrowed rule columns layout narrow aligned) other) :
    turn.reading.gist = other.reading.gist := by
  simp only [Reading.gist, h.reading.delivered, h.reading.dest, h.reading.reader.rows_eq,
    h.reading.reader.failed_eq]

/-- **Readers in lockstep read alike.** -/
theorem Narrowed.readsAlike [FiniteCursor σ] [FiniteCursor ρ]
    (hdeletes : Deletes (layout.mask rule columns) narrow aligned)
    (h : Narrowed rule columns layout narrow aligned a b) : ReadsAlike τ ε layout a b := by
  have hlockstep := lockstep_narrowed (τ := τ) hdeletes
  constructor
  case turns =>
    intro calls hcalls
    exact (hlockstep.map_turns h hcalls gist_of_narrowed).symm
  case first =>
    intro dest hreads
    have hread : (a.read dest).Agrees False (Narrowed rule columns layout narrow aligned)
        (b.read dest) := by
      rw [Reader.read, Reader.read, h.force_eq]
      exact hlockstep.readRow h hreads
    obtain ⟨houtcome, hrows⟩ := hread.reader.close hdeletes
    refine ⟨hread.dest.symm, hrows, ?_⟩
    simp only [Reader.first, hrows]
    cases hwide : (a.read dest).reader.close.outcome <;>
      cases hstrict : (b.read dest).reader.close.outcome <;> simp_all [Except.toOption]
  case records =>
    intro blank hreads limit
    have hrows := hlockstep.readMany h hreads limit
    exact ⟨hrows.dests.symm, hrows.reader.rows_eq, hrows.reader.failed_eq.symm⟩
  case allAs =>
    intro element hreads list
    have hreads' : ReadsInto layout (element.blank.routingForced b.force).isByField
        element.blank := h.force_eq ▸ hreads
    have hnone := refusal?_eq_none hreads
    have hlist := hlockstep.collect h h.force_eq ((refusal?_eq_none hreads').trans hnone.symm)
      (fun _ => hreads) (by simp [hnone]) list
    obtain ⟨houtcome, hrows⟩ := hlist.reader.close hdeletes
    exact ⟨hlist.elements.symm, hrows, houtcome⟩
  case close => exact h.close hdeletes

/-- **Dropping columns without a field is projection.**  Whatever a reader that drops them was
called to read into records of a layout, it reads on like a strict reader that was called in the
same way and has the result without these columns.  So it is with any cursor that can lose them,
as those of the library can if every row has a value for each column.  And where every column
has its field, whether a reader is strict makes no difference at all. -/
theorem unmatched_columns [FiniteCursor σ] [FiniteCursor ρ] (cursor : σ) (naming naming' : Naming)
    (hrule : naming'.rule = naming.rule)
    (hdeletes : Deletes (layout.mask naming.rule (Cursor.columnNames cursor)) narrow aligned)
    (haligned : aligned cursor) (force : Bool) {calls : List (Call τ)}
    (hcalls : ∀ call ∈ calls, call.All (ReadsInto layout)) :
    ReadsAlike τ ε layout ((Reader.fresh cursor naming true force).after calls)
        ((Reader.fresh (narrow cursor) naming' false force).after calls) ∧
      (∀ reader : Reader σ, Unaffected τ ε reader) ∧
      ∀ mask,
        Deletes mask (Paged.narrow mask) (fun cursor => Aligned mask cursor.rows) ∧
          Deletes mask (Feed.narrow mask) (fun cursor => Aligned mask (rowsOf cursor.items)) ∧
          Deletes mask (Channel.narrow mask) (fun cursor => Aligned mask (rowsOf cursor.queue)) ∧
          Deletes mask (Attended.narrow mask)
            (fun cursor => Attended.AlignedWith mask cursor.channel cursor.batches.flatten) := by
  have hstart := narrowed_fresh hdeletes hrule haligned force
  have hafter := ((lockstep_narrowed hdeletes).calls hstart hcalls).2
  exact ⟨hafter.readsAlike hdeletes, unaffected, fun mask => ⟨deletes_paged mask, deletes_feed mask,
    deletes_channel mask, deletes_attended mask⟩⟩

end

/-- A result of three columns, the second of which has no field. -/
theorem unmatched_columns_second :
    let fields : Record Scalar :=
      .column ⟨"flag", "flag", false⟩ ⟨.bool, false⟩
        (.column ⟨"seen", "seen", false⟩ ⟨.bool, true⟩ .nil)
    let dest : Destination Scalar := .record ⟨"Entry", none⟩ fields
    let cursor : Paged :=
      { columns := [{ name := "flag" }, { name := "other" }, { name := "seen" }]
        rows := [[.bool (some true), .char (some 'x'), .bool (some false)]] }
    let mask := fields.layout.mask id (Cursor.columnNames cursor)
    mask = [true, false, true] ∧ Aligned mask cursor.rows ∧
      ReadsAlike Scalar (Destination Scalar) fields.layout
        ((Reader.fresh cursor .asWritten true false).after [.fields dest])
        ((Reader.fresh (cursor.narrow mask) .asWritten false false).after [.fields dest]) := by
  intro fields dest cursor mask
  have hmask : mask = [true, false, true] := by
    simp [mask, cursor, fields, Layout.mask, Layout.resolves, Cursor.columnNames, Cursor.columns,
      Record.layout, NameTable.ofLayout, NameTable.find?, Layout.namedColumns, FieldName.segment,
      List.mergeSort]
  have haligned : Aligned mask cursor.rows := by
    rw [hmask]
    exact fun row hrow => by rw [List.mem_singleton.mp hrow]; rfl
  have hcalls : ∀ call ∈ [Call.fields dest], call.All (ReadsInto fields.layout) := by
    intro call hcall
    obtain rfl := List.mem_singleton.mp hcall
    exact ⟨rfl, _, _, rfl, rfl⟩
  exact ⟨hmask, haligned, (unmatched_columns cursor .asWritten .asWritten rfl (deletes_paged mask)
    haligned false hcalls).1⟩

end RowBind
