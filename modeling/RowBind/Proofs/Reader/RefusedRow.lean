import RowBind.Column.Scalar.Convert
import RowBind.Proofs.Reader.Mismatch
import RowBind.Proofs.Reader.SingleRow
import RowBind.Proofs.Route.Refusing

/-!
# What a row that fails leaves behind

A destination is often used for one row after the other, so it matters what a row leaves in
it that could not be read.  The writing of such a row stopped at some column: at the one whose
value was refused, or behind the last value of the row, if only its length is wrong.  What the
columns before that one claim was written, and nothing else has changed.

That is so whether the row was one of many or the single one that was asked for; closing the
reader in the end comes too late to change it.

Main statements: `Destination.write_upTo`, what is left of a row that was written up to a
column; and `effect_of_row`, what is left of it where a reader fails.
-/

namespace RowBind

variable {σ τ : Type} [ColumnFamily τ]

/-! ## Destinations -/

namespace Destination

/-- A row was written into a destination up to a column, and no further: into the leaves that
were claimed before it, or as a whole. -/
inductive WrittenUpTo (row : Row) (stop : Nat) :
    Option Routes → Destination τ → Destination τ → Prop
  | fields {routes : Routes} {info : RecordInfo τ} {fields after : Record τ}
      (h : fields.WrittenUpTo routes row stop after) :
      WrittenUpTo row stop (some routes) (.record info fields) (.record info after)
  /-- The single value was not reached. -/
  | nothing {dest : Destination τ} (h : stop = 0) : WrittenUpTo row stop none dest dest
  | whole {dest after : Destination τ} {value : Value} (h : 0 < stop)
      (hvalue : row[0]? = some value) (htakes : dest.Takes value after) :
      WrittenUpTo row stop none dest after

theorem slotsThrough_none (dest : Destination τ) : dest.slotsThrough none = [.field dest] := by
  cases dest <;> rfl

/-- A slot that was used for the destination as a whole holds the destination then. -/
theorem ofSlotsThrough_single (dest after : Destination τ) :
    dest.ofSlotsThrough none [.field after] = after := by
  cases dest <;> rfl

/-- A row that is written into the slots of a destination up to a column is written into the
destination up to there. -/
theorem write_upTo {routes? : Option Routes} {dest : Destination τ} {row : Row} {stop : Nat}
    (hrecord : routes? ≠ none → dest.isRecord = true)
    (h : FilledUpTo (dest.slotsThrough routes?) row stop
      (fillRow (dest.slotsThrough routes?) row).2) :
    WrittenUpTo row stop routes? dest (dest.write routes? row).2 := by
  cases routes? with
  | some routes =>
      cases dest with
      | column cell => cases hrecord (Option.some_ne_none routes)
      | record info fields => exact .fields (Record.takeRow_upTo h)
  | none =>
      rw [slotsThrough_none] at h
      have hone : (fillRow [.field dest] row).2.length = 1 := fillFrom_length _ _ _ _
      obtain ⟨slot, hslot⟩ := List.length_eq_one_iff.mp hone
      rw [hslot] at h
      simp only [write, slotsThrough_none, hslot]
      by_cases hstop : stop = 0
      · have hkept := h.kept (i := 0) (by omega)
        simp only [List.getElem?_cons_zero, Option.some.injEq] at hkept
        rw [hkept, ofSlotsThrough_single]
        exact .nothing hstop
      · obtain ⟨value, after, hvalue, htakes, hafter⟩ :=
          h.written (i := 0) (by omega) rfl
        simp only [List.getElem?_cons_zero, Option.some.injEq] at hafter
        rw [hafter, ofSlotsThrough_single]
        exact .whole (by omega) hvalue htakes

end Destination

/-! ## Readers -/

/-- What a row comes to that is written through routes or as a whole: the failure, if there is
one, and the destination. -/
structure RowEffect (row : Row) (position : Nat) (routes? : Option Routes) (dest : Destination τ)
    (failure? : Option Failure) (after : Destination τ) : Prop where
  /-- A value is refused. -/
  refused : ∀ {j : Nat} {failure : Failure},
    FirstRefused (dest.slotsThrough routes?) row j failure →
      failure? = some ((failure.within (.assigning j)).within (.fetching position)) ∧
        dest.WrittenUpTo row j routes? after
  /-- Only the length is wrong. -/
  wrongLength : (∀ j failure, ¬ FirstRefused (dest.slotsThrough routes?) row j failure) →
    ∀ {failure : Failure},
      lengthVerdict row.length (dest.slotsThrough routes?).length = .error failure →
        failure? = some (failure.within (.fetching position)) ∧
          dest.WrittenUpTo row row.length routes? after

/-- The failure that an outcome tells of. -/
def failureIn (outcome : Outcome Unit) : Option Failure :=
  match outcome with
  | .ok () => none
  | .error failure => some failure

namespace Reader

variable [Cursor σ]

/-- Routes are for records. -/
theorem isRecord_of_routesFor {byField : Bool} {reader : Reader σ} {dest : Destination τ}
    (hfine : reader.objection? byField dest = none)
    (hroutes : reader.routesFor byField dest ≠ none) : dest.isRecord = true := by
  cases byField with
  | true => exact isRecord_of_objection? hfine
  | false => exact absurd rfl hroutes

/-- A row that the cursor writes is read as the destination takes it. -/
theorem readRow_of_writes {byField : Bool} {reader : Reader σ} {dest : Destination τ} {row : Row}
    (hlive : reader.start.isSome) (hfine : reader.objection? byField dest = none)
    (hwrites : Cursor.Writes τ reader.cursor row) :
    ∃ asking log, asking.rows = reader.rows ∧ asking.failure? = none ∧
      reader.readRow byField dest =
        settled asking ((dest.write (reader.routesFor byField dest) row).1.map fun _ => true)
          (dest.write (reader.routesFor byField dest) row).2 log := by
  obtain ⟨next, before, hfetch⟩ := hwrites (dest.slotsThrough (reader.routesFor byField dest))
  obtain ⟨-, hrows, hunfailed⟩ := prepared_kept byField reader dest
  rw [readRow_asked hlive hfine, hfetch, deliver_eq]
  exact ⟨{ (reader.prepared byField dest).1 with cursor := next }, _, hrows, hunfailed, rfl⟩

omit [Cursor σ] in
/-- What a reader fails with where a row is not written. -/
theorem settled_error (reader : Reader σ) (failure : Failure) (dest : Destination τ) (log : Log) :
    (settled reader (.error failure) dest log).reader.failure? =
        some (failure.within (.fetching (reader.rows + 1))) ∧
      (settled reader (.error failure) dest log).dest = dest :=
  ⟨rfl, rfl⟩

/-- What is left of a row where it is read as one of many. -/
theorem rowEffect_readRow {byField : Bool} {reader : Reader σ} {dest : Destination τ} {row : Row}
    (hlive : reader.start.isSome) (hfine : reader.objection? byField dest = none)
    (hwrites : Cursor.Writes τ reader.cursor row) :
    RowEffect row (reader.rows + 1) (reader.routesFor byField dest) dest
      (reader.readRow byField dest).reader.failure? (reader.readRow byField dest).dest := by
  obtain ⟨asking, log, hrows, -, hread⟩ := readRow_of_writes hlive hfine hwrites
  have hrecord := isRecord_of_routesFor hfine
  have haccount := rowAccount (dest.slotsThrough (reader.routesFor byField dest)) row
  have hfailed : ∀ {failure : Failure},
      (fillRow (dest.slotsThrough (reader.routesFor byField dest)) row).1 = .error failure →
        (reader.readRow byField dest).reader.failure? =
            some (failure.within (.fetching (reader.rows + 1))) ∧
          (reader.readRow byField dest).dest =
            (dest.write (reader.routesFor byField dest) row).2 := by
    intro failure houtcome
    rw [hread, Destination.write, houtcome, ← hrows]
    exact settled_error _ _ _ _
  constructor
  · intro j failure hfirst
    obtain ⟨houtcome, hfilled⟩ := haccount.refused hfirst
    obtain ⟨hfailure, hdest⟩ := hfailed houtcome
    rw [hdest]
    exact ⟨hfailure, Destination.write_upTo hrecord hfilled⟩
  · intro hnone failure hverdict
    have houtcome := haccount.outcome_eq hnone
    obtain ⟨hfailure, hdest⟩ := hfailed (houtcome.trans hverdict)
    rw [hdest]
    exact ⟨hfailure, Destination.write_upTo hrecord (haccount.taken hnone)⟩

/-- What went wrong with a single row is told in the end. -/
theorem first_of_failed {reader : Reader σ} {dest : Destination τ} {failure : Failure}
    (h : (reader.read dest).reader.failure? = some failure) :
    (reader.first dest).outcome = .error failure ∧
      (reader.first dest).result = (reader.read dest).dest := by
  have hopen : (reader.read dest).reader.phase ≠ .closed := by
    intro hclosed
    simp [failure?, hclosed] at h
  refine ⟨?_, rfl⟩
  rw [first_outcome hopen, h]

/-- What is left of a row where it is the single one that was asked for. -/
theorem RowEffect.first {reader : Reader σ} {dest : Destination τ} {row : Row} {position : Nat}
    {routes? : Option Routes}
    (h : RowEffect row position routes? dest (reader.read dest).reader.failure?
      (reader.read dest).dest) :
    RowEffect row position routes? dest (failureIn (reader.first dest).outcome)
      (reader.first dest).result := by
  constructor
  · intro j failure hfirst
    obtain ⟨hfailure, hwritten⟩ := h.refused hfirst
    obtain ⟨houtcome, hresult⟩ := first_of_failed hfailure
    rw [houtcome, hresult]
    exact ⟨rfl, hwritten⟩
  · intro hnone failure hverdict
    obtain ⟨hfailure, hwritten⟩ := h.wrongLength hnone hverdict
    obtain ⟨houtcome, hresult⟩ := first_of_failed hfailure
    rw [houtcome, hresult]
    exact ⟨rfl, hwritten⟩

/-- A row is read exactly if no slot refuses its value and its length is right. -/
theorem delivered_readRow_iff {byField : Bool} {reader : Reader σ} {dest : Destination τ}
    {row : Row} (hlive : reader.start.isSome) (hfine : reader.objection? byField dest = none)
    (hwrites : Cursor.Writes τ reader.cursor row) :
    (reader.readRow byField dest).delivered = true ↔
      (∀ j failure,
        ¬ FirstRefused (dest.slotsThrough (reader.routesFor byField dest)) row j failure) ∧
        row.length = (dest.slotsThrough (reader.routesFor byField dest)).length := by
  obtain ⟨asking, log, -, -, hread⟩ := readRow_of_writes hlive hfine hwrites
  have houtcome : (dest.write (reader.routesFor byField dest) row).1 =
      (fillRow (dest.slotsThrough (reader.routesFor byField dest)) row).1 := rfl
  rw [← (rowAccount _ row).ok_iff, ← houtcome, hread]
  cases (dest.write (reader.routesFor byField dest) row).1 with
  | ok _ => exact iff_of_true rfl rfl
  | error failure => exact iff_of_false Bool.false_ne_true nofun

/-- **What a row that fails leaves behind.**  Whatever the slots and the values, a row is
written up to the slot that refuses its value, or as far as it goes.  So a reader that asks its
cursor for a row, as one of many or as the single one, reads it exactly if it was written; and
where it was not, the columns up to there were written and nothing else has changed. -/
theorem effect_of_row (slots : List (Slot τ)) (values : Row) {byField : Bool} {reader : Reader σ}
    {dest : Destination τ} {row : Row} (hlive : reader.start.isSome)
    (hfine : reader.objection? byField dest = none) (hwrites : Cursor.Writes τ reader.cursor row) :
    RowAccount slots values (fillRow slots values) ∧
      ((reader.readRow byField dest).delivered = true ↔
        (∀ j failure,
          ¬ FirstRefused (dest.slotsThrough (reader.routesFor byField dest)) row j failure) ∧
          row.length = (dest.slotsThrough (reader.routesFor byField dest)).length) ∧
      RowEffect row (reader.rows + 1) (reader.routesFor byField dest) dest
        (reader.readRow byField dest).reader.failure? (reader.readRow byField dest).dest ∧
      (byField = (dest.routingForced reader.force).isByField →
        RowEffect row (reader.rows + 1) (reader.routesFor byField dest) dest
          (failureIn (reader.first dest).outcome) (reader.first dest).result) := by
  have heffect := rowEffect_readRow hlive hfine hwrites
  refine ⟨rowAccount slots values, delivered_readRow_iff hlive hfine hwrites, heffect, ?_⟩
  rintro rfl
  exact RowEffect.first heffect

/-- A row whose second value is refused, read into a record of two leaves. -/
theorem effect_of_row_second :
    let fields : Record Scalar :=
      .column ⟨"flag", "flag", false⟩ ⟨.bool, false⟩
        (.column ⟨"seen", "seen", false⟩ ⟨.bool, true⟩ .nil)
    let dest : Destination Scalar := .record ⟨"Entry", none⟩ fields
    let row : Row := [.bool (some true), .char (some 'x')]
    let cursor : Paged := { columns := [{ name := "flag" }, { name := "seen" }], rows := [row] }
    let reader := Reader.ofCursor cursor
    reader.start.isSome ∧ reader.objection? true dest = none ∧
      Cursor.Writes Scalar reader.cursor row ∧
      (∃ failure, FirstRefused (dest.slotsThrough (reader.routesFor true dest)) row 1 failure) ∧
      RowEffect row 1 (reader.routesFor true dest) dest
        (failureIn (reader.first dest).outcome) (reader.first dest).result := by
  intro fields dest row cursor reader
  have hroutes : fields.layout.routes id ["flag", "seen"] = [some 0, some 1] := by
    simp [fields, Layout.routes, Record.layout, NameTable.ofLayout, NameTable.find?,
      Layout.namedColumns, FieldName.segment, List.mergeSort]
  have hfound : reader.routesFor true dest = some [some 0, some 1] := by
    rw [← hroutes]
    exact congrArg some (Naming.routes_fst _ _ _)
  have hfine : reader.objection? true dest = none := by
    have hresolved : (reader.resolve dest).1 = .ok [some 0, some 1] := by
      have hcolumns : dest.layout.routes reader.naming.rule (Cursor.columnNames reader.cursor) =
          [some 0, some 1] := hroutes
      simp only [resolve_outcome, hcolumns]
      rfl
    have hunrouted : reader.routes? = none := rfl
    simp only [objection?, hunrouted, hresolved, if_true]
  have hholds : Cursor.Holds Scalar cursor [row] := holds_paged rfl rfl
  have hrefused : FirstRefused (dest.slotsThrough (reader.routesFor true dest)) row 1
      (.of (.unconvertible (.char (some 'x')) "bool")) := by
    rw [hfound]
    refine ⟨⟨_, _, rfl, rfl, .column rfl⟩, fun {i} _ _ hlt hslot hvalue => ?_⟩
    obtain rfl : i = 0 := by omega
    cases hslot
    cases hvalue
    exact ⟨_, .column rfl⟩
  exact ⟨rfl, hfine, hholds.writes, ⟨_, hrefused⟩,
    (effect_of_row [] [] rfl hfine hholds.writes).2.2.2 rfl⟩

end Reader

end RowBind
