import RowBind.Proofs.Reader.Lockstep
import RowBind.Proofs.Route.Deleting

/-!
# Strict readers

A strict reader fails where a column has no field, and another one drops the column.  Where
every column has its field the two do the same throughout: they ask their cursors in the same
way, count and fail alike, for the same reasons, and are heard to do the same.  Nothing is left
to tell them apart but that one of them is strict.

Main statements: `resolve_strict`, columns are routed alike; `lockstep_strict`, the two go in
lockstep; and `unaffected`, nothing changes over any calls, nor in the end.
-/

namespace RowBind

open Reader

variable {σ τ ε : Type} [ColumnFamily τ]

/-! ## Being strict -/

/-- The reader, failing where a column has no field. -/
def Reader.strict (reader : Reader σ) : Reader σ :=
  { reader with dropUnmatched := false }

def Reading.strict (reading : Reading σ τ) : Reading σ τ :=
  { reading with reader := reading.reader.strict }

def Turn.strict (turn : Turn σ τ) : Turn σ τ :=
  { turn with
    reader := turn.reader.strict
    reading := turn.reading.strict }

def Rows.strict (rows : Rows σ τ) : Rows σ τ :=
  { rows with reader := rows.reader.strict }

def Ending.strict {α : Type} (ending : Ending σ α) : Ending σ α :=
  { ending with reader := ending.reader.strict }

/-- A row that is read by field into a record finds a field for every column. -/
def FindsAll (rule : NameRule) (columns : List String) (byField : Bool)
    (dest : Destination τ) : Prop :=
  byField = true → dest.isRecord = true → ∀ name ∈ columns, dest.layout.resolves rule name = true

/-- No route is missing where every column finds a field. -/
theorem Layout.firstMissing?_of_resolves {layout : Layout} {rule : NameRule}
    {columns : List String} (h : ∀ name ∈ columns, layout.resolves rule name = true) :
    (layout.routes rule columns).firstMissing? = none := by
  rw [Routes.firstMissing?, List.findIdx?_eq_none_iff]
  intro route hroute
  obtain ⟨name, hname, rfl⟩ := List.mem_map.mp hroute
  have hfound := h name hname
  simpa [resolves, Option.isSome_iff_ne_none] using hfound

theorem Reader.start_strict (reader : Reader σ) :
    reader.strict.start = reader.start.map Reader.strict := by
  cases hphase : reader.phase <;> simp [start, strict, hphase]

theorem Reader.settled_strict (reader : Reader σ) (outcome : Outcome Bool) (dest : Destination τ)
    (log : Log) :
    settled reader.strict outcome dest log = (settled reader outcome dest log).strict := by
  unfold settled
  split <;> rfl

variable [Cursor σ] {rule : NameRule} {columns : List String}

namespace Reader

/-! ## A row -/

section

variable {reader : Reader σ} {dest : Destination τ}

/-- **Columns are routed alike** where all of them find a field. -/
theorem resolve_strict
    (h : FindsAll reader.naming.rule (Cursor.columnNames reader.cursor) true dest) :
    reader.strict.resolve dest = reader.resolve dest := by
  cases hrecord : dest.isRecord with
  | false => simp [resolve, strict, hrecord]
  | true =>
      have hroutes : (reader.naming.routes dest.key (Cursor.columnNames reader.cursor)).1 =
          dest.layout.routes reader.naming.rule (Cursor.columnNames reader.cursor) :=
        Naming.routes_fst _ _ _
      have hfound := Layout.firstMissing?_of_resolves (h rfl hrecord)
      simp only [resolve, strict, hrecord, hroutes, hfound]

/-- What speaks against a row is the same. -/
theorem objection?_strict {byField : Bool}
    (h : FindsAll reader.naming.rule (Cursor.columnNames reader.cursor) byField dest) :
    reader.strict.objection? byField dest = reader.objection? byField dest := by
  cases byField with
  | false => rfl
  | true =>
      have hresolve := resolve_strict h
      simp only [objection?, hresolve]
      rfl

/-- So is the way in which a row is prepared for. -/
theorem prepared_strict {byField : Bool}
    (h : FindsAll reader.naming.rule (Cursor.columnNames reader.cursor) byField dest) :
    reader.strict.prepared byField dest =
      ((reader.prepared byField dest).1.strict, (reader.prepared byField dest).2) := by
  cases byField with
  | false => rfl
  | true =>
      have hresolve := resolve_strict h
      have hroutes : reader.strict.routes? = reader.routes? := rfl
      simp only [prepared, hresolve, hroutes]
      split <;> rfl

/-- **A row is read alike** where every column finds a field. -/
theorem readRow_strict {byField : Bool}
    (h : FindsAll reader.naming.rule (Cursor.columnNames reader.cursor) byField dest) :
    reader.strict.readRow byField dest = (reader.readRow byField dest).strict := by
  have hover := start_strict reader
  cases hstart : reader.start with
  | none =>
      rw [hstart] at hover
      rw [readRow_idle hstart, readRow_idle hover]
      rfl
  | some started =>
      have hlive : reader.start.isSome := by simp [hstart]
      have hlive' : reader.strict.start.isSome := by simp [hover, hstart]
      have hroutes : reader.strict.routesFor byField dest = reader.routesFor byField dest := rfl
      rw [readRow_eq hlive, readRow_eq hlive', objection?_strict h, prepared_strict h, hroutes]
      cases reader.objection? byField dest with
      | some failure => rfl
      | none =>
          dsimp only
          rw [← settled_strict]
          rfl

end

/-! ## Lockstep -/

/-- The second reader is the first one, made strict; both know the columns and the rule. -/
structure StrictOf (rule : NameRule) (columns : List String) (a b : Reader σ) : Prop where
  eq : b = a.strict
  rule_eq : a.naming.rule = rule
  columns_eq : Cursor.columnNames a.cursor = columns

/-- Reading a row changes neither the rule nor the columns. -/
theorem named_readRow (byField : Bool) (reader : Reader σ) (dest : Destination τ) :
    (reader.readRow byField dest).reader.naming.rule = reader.naming.rule ∧
      Cursor.columnNames (reader.readRow byField dest).reader.cursor =
        Cursor.columnNames reader.cursor := by
  have hstep := step_readRow byField reader dest
  generalize reader.readRow byField dest = reading at hstep ⊢
  cases hstep with
  | idle => exact ⟨rfl, rfl⟩
  | refused hstart hrule => exact ⟨hrule, rfl⟩
  | fetched hstart hrule hroutes slots hkept log =>
      have hcolumns := columnNames_fetch reader.cursor slots
      unfold settled
      split <;> exact ⟨hrule, hcolumns⟩

/-- **A reader and a strict one go in lockstep** where every column finds a field, and they are
heard to do the same. -/
theorem lockstep_strict :
    Lockstep (FindsAll (τ := τ) rule columns) True (StrictOf (σ := σ) rule columns) where
  readRow {a b} h byField dest hfinds := by
    obtain ⟨hrule, hcolumns⟩ := named_readRow byField a dest
    rw [← h.rule_eq, ← h.columns_eq] at hfinds
    rw [h.eq, readRow_strict hfinds]
    exact ⟨rfl, rfl, fun _ => rfl, rfl, hrule.trans h.rule_eq, hcolumns.trans h.columns_eq⟩
  start {a b} h := by
    have hover := start_strict a
    rw [h.eq]
    cases hstart : a.start with
    | none => exact Or.inl ⟨rfl, by rw [hover, hstart]; rfl⟩
    | some started =>
        obtain ⟨routes, rfl, -⟩ := eq_of_start hstart
        exact Or.inr ⟨_, _, rfl, by rw [hover, hstart]; rfl, rfl, h.rule_eq, h.columns_eq⟩

/-! ## Calls and ends -/

/-- Nothing about the reader changes if it is strict, as long as every column finds a field:
calls take the same turns, and rows are read alike in every other way. -/
structure Unaffected (τ ε : Type) [ColumnFamily τ] [FiniteCursor σ] (reader : Reader σ) : Prop where
  turns : ∀ {calls : List (Call τ)},
    (∀ call ∈ calls, call.All (FindsAll reader.naming.rule (Cursor.columnNames reader.cursor))) →
      reader.strict.turns calls = (reader.turns calls).map Turn.strict ∧
        reader.strict.after calls = (reader.after calls).strict
  first : ∀ {dest : Destination τ},
    FindsAll reader.naming.rule (Cursor.columnNames reader.cursor) true dest →
      reader.strict.first dest = (reader.first dest).strict
  records : ∀ {blank : Destination τ},
    FindsAll reader.naming.rule (Cursor.columnNames reader.cursor) true blank →
      ∀ limit, reader.strict.records limit blank = (reader.records limit blank).strict
  allAs : ∀ {element : ElementType τ ε},
    FindsAll reader.naming.rule (Cursor.columnNames reader.cursor) true element.blank →
      ∀ list, reader.strict.allAs element list = (reader.allAs element list).strict
  close : reader.strict.close = reader.close.strict

/-- A turn that is taken alike by the strict reader. -/
theorem turn_strict {turn other : Turn σ τ}
    (h : turn.Agrees True (StrictOf rule columns) other) : turn.strict = other := by
  obtain ⟨hby, hdest, hreader, hdelivered, hwritten, hlog, hafter⟩ := h
  obtain ⟨byField', reader', dest', ⟨delivered', after', written', log'⟩⟩ := other
  obtain rfl : reader' = turn.reader.strict := hreader.eq
  obtain rfl : after' = turn.reading.reader.strict := hafter.eq
  obtain rfl : log' = turn.reading.log := (hlog trivial).symm
  cases hby
  cases hdest
  cases hdelivered
  cases hwritten
  rfl

/-- Rows that are read alike by the strict reader. -/
theorem rows_strict [FiniteCursor σ] {rows other : Rows σ τ}
    (h : RowsAgree True (StrictOf rule columns) rows other) : other = rows.strict := by
  obtain ⟨hdests, hlog, hafter⟩ := h
  obtain ⟨dests', reader', log'⟩ := other
  obtain rfl : reader' = rows.reader.strict := hafter.eq
  obtain rfl : log' = rows.log := (hlog trivial).symm
  cases hdests
  rfl

theorem close_strict (reader : Reader σ) : reader.strict.close = reader.close.strict := by
  have hphase : reader.strict.phase = reader.phase := rfl
  unfold close
  rw [hphase]
  split <;> rfl

/-- **Nothing changes for a strict reader** where every column finds a field. -/
theorem unaffected [FiniteCursor σ] (reader : Reader σ) : Unaffected τ ε reader := by
  have hrelated : StrictOf reader.naming.rule (Cursor.columnNames reader.cursor) reader
      reader.strict := ⟨rfl, rfl, rfl⟩
  have hlockstep : Lockstep
      (FindsAll (τ := τ) reader.naming.rule (Cursor.columnNames reader.cursor)) True
      (StrictOf (σ := σ) reader.naming.rule (Cursor.columnNames reader.cursor)) := lockstep_strict
  constructor
  case turns =>
    intro calls hcalls
    have hturns : (reader.turns calls).map Turn.strict = (reader.strict.turns calls).map id :=
      hlockstep.map_turns hrelated hcalls turn_strict
    exact ⟨by rw [hturns, List.map_id], (hlockstep.calls hrelated hcalls).2.eq⟩
  case first =>
    intro dest hfinds
    have hread : reader.strict.read dest = (reader.read dest).strict :=
      readRow_strict fun _ => hfinds rfl
    have hclose := close_strict (reader.read dest).reader
    simp only [first, hread, Reading.strict, hclose]
    rfl
  case records =>
    intro blank hfinds limit
    exact rows_strict (hlockstep.readMany hrelated hfinds limit)
  case allAs =>
    intro element hfinds list
    have hrows := hlockstep.collect hrelated rfl rfl (fun _ _ => hfinds rfl)
      (fun cause _ => ⟨rfl, rfl, rfl⟩) list
    simp only [allAs, ← hrows.elements, ← hrows.log trivial, hrows.reader.eq, close_strict]
    rfl
  case close => exact close_strict reader

end Reader

end RowBind
