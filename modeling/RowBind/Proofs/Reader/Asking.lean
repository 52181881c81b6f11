import RowBind.Proofs.Route.Filling
import RowBind.Reader.Step

/-!
# How a row is asked for

Whatever a reader was called for before, a row is read by it in one way.  Something may
speak against asking for the row: the shape of the result and of the destination, or a
column that has no field.  Then the cursor is left alone and the reader fails for that
reason.  Otherwise the columns are routed, if they were not yet, and the cursor is asked
for the row through the slots of the destination.

No assumption is made here on the destination or on what was read before; a reader that
knows its routes goes on with them, whatever it is given to read into.

Main statements: `readRow_eq`, the one way in which a row is read; `readRow_objected` and
`readRow_asked`, its two cases; and `readRow_idle`, a reader that has failed or was closed
is left alone.
-/

namespace RowBind

variable {σ τ : Type} [ColumnFamily τ]

/-! ## Writing a row -/

namespace Destination

/-- The slots through which a row is written: one for each route, or a single one for the
destination as a whole. -/
def slotsThrough (routes? : Option Routes) : Destination τ → List (Slot τ)
  | record info fields =>
    match routes? with
    | some routes => (claims fields.cells.length routes).map (slotOf fields.cells)
    | none => [.field (record info fields)]
  | column cell => [.field (column cell)]

/-- The destination with what the slots hold. -/
def ofSlotsThrough (routes? : Option Routes) (slots : List (Slot τ)) :
    Destination τ → Destination τ
  | record info fields =>
    match routes? with
    | some routes =>
      .record info (fields.refill (putBack (claims fields.cells.length routes) slots fields.cells))
    | none =>
      match slots with
      | [.field dest] => dest
      | _ => record info fields
  | column cell =>
    match slots with
    | [.field dest] => dest
    | _ => column cell

/-- Writes a row, through routes to the fields or as a whole: whether that went well, and
the destination then. -/
def write (routes? : Option Routes) (dest : Destination τ) (row : Row) :
    Outcome Unit × Destination τ :=
  let filled := fillRow (dest.slotsThrough routes?) row
  (filled.1, dest.ofSlotsThrough routes? filled.2)

/-- Slots that were left as they are change nothing. -/
theorem ofSlotsThrough_slotsThrough (routes? : Option Routes) (dest : Destination τ) :
    dest.ofSlotsThrough routes? (dest.slotsThrough routes?) = dest := by
  cases dest with
  | column cell => rfl
  | record info fields =>
      cases routes? with
      | none => rfl
      | some routes => simp only [slotsThrough, ofSlotsThrough, putBack_slotOf,
          Record.refill_cells]

end Destination

namespace Reader

/-! ## Before the cursor is asked -/

/-- The routes with which the reader goes on, if it has any. -/
def routes? (reader : Reader σ) : Option Routes :=
  match reader.phase with
  | .reading routes => routes
  | _ => none

theorem routes?_eq_some_iff {reader : Reader σ} {routes : Routes} :
    reader.routes? = some routes ↔ reader.phase = .reading (some routes) := by
  cases hphase : reader.phase <;> simp [routes?, hphase]

/-- The reader at work goes on with the routes it has. -/
theorem start_eq {reader : Reader σ} (hlive : reader.start.isSome) :
    reader.start = some { reader with phase := .reading reader.routes? } := by
  cases hphase : reader.phase <;> simp_all [start, routes?]
  rw [← hphase]

variable [Cursor σ]

/-- The routes through which a row is written: those the reader has, or those it finds.
There are none for a row that is read as a single column. -/
def routesFor (byField : Bool) (reader : Reader σ) (dest : Destination τ) : Option Routes :=
  if byField then
    some (reader.routes?.getD
      (reader.naming.routes dest.key (Cursor.columnNames reader.cursor)).1)
  else none

/-- What speaks against asking the cursor for a row.  A reader that has its routes does not
look at the columns again; where it is then given no record, the failure is taken for one
of the fetch. -/
def objection? (byField : Bool) (reader : Reader σ) (dest : Destination τ) : Option Failure :=
  if byField then
    match reader.routes? with
    | some _ =>
      if dest.isRecord then none
      else some ((Failure.of (.notRecord dest.typeName)).within (.fetching (reader.rows + 1)))
    | none =>
      match (reader.resolve dest).1 with
      | .ok _ => none
      | .error failure => some failure
  else
    let columns := (Cursor.columns reader.cursor).length
    if columns > 1 then some (.of (.tooManyColumns dest.typeName columns))
    else if !dest.takesValue then some (.of (.notDecodable dest.typeName))
    else none

/-- The reader when it asks for a row, with what was logged on the way. -/
def prepared (byField : Bool) (reader : Reader σ) (dest : Destination τ) : Reader σ × Log :=
  if byField && reader.routes?.isNone then
    let (_, naming, log) := reader.resolve dest
    ({ reader with naming, phase := .reading (reader.routesFor true dest) }, log)
  else ({ reader with phase := .reading reader.routes? }, [])

/-- Preparing for a row keeps the cursor and the number of rows, and does not fail. -/
theorem prepared_kept (byField : Bool) (reader : Reader σ) (dest : Destination τ) :
    (reader.prepared byField dest).1.cursor = reader.cursor ∧
      (reader.prepared byField dest).1.rows = reader.rows ∧
      (reader.prepared byField dest).1.failure? = none := by
  unfold prepared
  split <;> exact ⟨rfl, rfl, rfl⟩

/-! ## The one way -/

/-- A reader that has failed or was closed is left alone. -/
theorem readRow_idle {reader : Reader σ} (h : reader.start = none) (byField : Bool)
    (dest : Destination τ) : reader.readRow byField dest = nothing reader dest [] := by
  cases byField <;> simp [readRow, readFields, readColumn, h]

/-- A row is asked for through the fields of a record. -/
theorem fetchFields_eq (reader : Reader σ) (routes : Routes) (dest : Destination τ) :
    reader.fetchFields routes dest =
      if dest.isRecord then
        let fetched := Cursor.fetch reader.cursor (dest.slotsThrough (some routes))
        settled { reader with cursor := fetched.cursor } fetched.outcome
          (dest.ofSlotsThrough (some routes) fetched.slots) fetched.log
      else
        nothing (reader.fail ((Failure.of (.notRecord dest.typeName)).within
          (.fetching (reader.rows + 1)))) dest [] := by
  cases dest <;> rfl

/-- Columns are routed to records only. -/
theorem isRecord_of_resolve {reader : Reader σ} {dest : Destination τ} {routes : Routes}
    (h : (reader.resolve dest).1 = .ok routes) : dest.isRecord = true := by
  cases dest with
  | column cell => simp [resolve, Destination.isRecord, failFor] at h
  | record info fields => rfl

/-- **How a row is read.**  If nothing speaks against it the cursor is asked for the row,
through the slots of the destination. -/
theorem readRow_eq {reader : Reader σ} (hlive : reader.start.isSome) (byField : Bool)
    (dest : Destination τ) :
    reader.readRow byField dest =
      match reader.objection? byField dest with
      | some failure =>
        nothing ((reader.prepared byField dest).1.fail failure) dest
          (reader.prepared byField dest).2
      | none =>
        let fetched := Cursor.fetch reader.cursor
          (dest.slotsThrough (reader.routesFor byField dest))
        settled { (reader.prepared byField dest).1 with cursor := fetched.cursor }
          fetched.outcome (dest.ofSlotsThrough (reader.routesFor byField dest) fetched.slots)
          ((reader.prepared byField dest).2 ++ fetched.log) := by
  have hstart := start_eq hlive
  cases byField with
  | false =>
      simp only [readRow, readColumn, hstart, scanColumn, objection?, prepared, routesFor]
      by_cases hmany : (Cursor.columns reader.cursor).length > 1
      · simp [hmany, fail]
      · by_cases hvalue : dest.takesValue = true
        · simp only [hmany, hvalue, fetchColumn, Bool.not_true, Bool.false_eq_true, if_false,
            Bool.false_and, List.nil_append]
          cases dest <;> rfl
        · simp [hmany, hvalue, fail]
  | true =>
      cases hroutes : reader.routes? with
      | some routes =>
          simp only [readRow, readFields, hstart, hroutes, fetchFields_eq, objection?, prepared,
            routesFor]
          by_cases hrecord : dest.isRecord = true
          · simp [hrecord]
          · simp [hrecord, fail]
      | none =>
          have hsame : resolve { reader with phase := .reading none } dest =
              reader.resolve dest := rfl
          simp only [readRow, readFields, hstart, hroutes, scanFields, hsame, objection?,
            prepared, routesFor]
          rcases hresolve : reader.resolve dest with ⟨_ | routes, naming, log⟩
          · simp [fail]
          · have hrecord : dest.isRecord = true :=
              isRecord_of_resolve (congrArg Prod.fst hresolve)
            have hfound := resolve_routes hresolve
            simp [hrecord, ← hfound, fetchFields_eq, settled_log]

/-- A row that something speaks against is not asked for. -/
theorem readRow_objected {byField : Bool} {reader : Reader σ} {dest : Destination τ}
    (hlive : reader.start.isSome) {failure : Failure}
    (h : reader.objection? byField dest = some failure) :
    reader.readRow byField dest =
      nothing ((reader.prepared byField dest).1.fail failure) dest
        (reader.prepared byField dest).2 := by
  rw [readRow_eq hlive, h]

/-- A row that nothing speaks against is asked for. -/
theorem readRow_asked {byField : Bool} {reader : Reader σ} {dest : Destination τ}
    (hlive : reader.start.isSome) (h : reader.objection? byField dest = none) :
    reader.readRow byField dest =
      let fetched := Cursor.fetch reader.cursor
        (dest.slotsThrough (reader.routesFor byField dest))
      settled { (reader.prepared byField dest).1 with cursor := fetched.cursor }
        fetched.outcome (dest.ofSlotsThrough (reader.routesFor byField dest) fetched.slots)
        ((reader.prepared byField dest).2 ++ fetched.log) := by
  rw [readRow_eq hlive, h]

end Reader

end RowBind
