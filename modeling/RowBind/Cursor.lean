import RowBind.Destination
import RowBind.Log

/-!
# Cursors

A cursor delivers the rows of one result, one after the other, through slots that it is
given, one per column.  It can be closed, which ends the delivery, and it is released
once right after that.

The columns of a result are fixed.  A result need not be finite; where it is, its cursor
knows a bound on the rows it may still deliver, which each delivered row lowers.  The
bound is no part of what a cursor reports; it makes reading to the end a terminating
affair.
-/

namespace RowBind

/-- What is known of a column of a result. -/
structure ColumnInfo where
  name : String
  table : String := ""
  /-- A null of the type of the column. -/
  type : Value := .null

namespace ColumnInfo

/-- The column with the type of the given value. -/
def withType (column : ColumnInfo) (value : Value) : ColumnInfo :=
  { column with type := value.asNull }

/-- The columns have the same names, tables and types. -/
def equal (a b : ColumnInfo) : Bool :=
  a.name == b.name && a.table == b.table && a.type == b.type

end ColumnInfo

/-- The values of a row, in column order. -/
abbrev Row := List Value

/-- What a fetch brings about: whether a row was delivered, the cursor and the slots as
they are then, and what was logged. -/
structure Fetched (σ τ : Type) [ColumnFamily τ] where
  outcome : Outcome Bool
  cursor : σ
  slots : List (Slot τ)
  log : Log := []

/-- The cursors with states in `σ`. -/
class Cursor (σ : Type) where
  /-- The columns of the result. -/
  columns : σ → List ColumnInfo
  /-- An estimate of the rows that can be delivered without waiting. -/
  hint : σ → Nat
  /-- Delivers the next row through slots; false means that there is none. -/
  fetch : {τ : Type} → [ColumnFamily τ] → σ → List (Slot τ) → Fetched σ τ
  /-- Ends the delivery. -/
  close : σ → Outcome Unit × σ
  /-- Gives back what was held for the result. -/
  release : σ → σ
  columns_fetch : ∀ {τ : Type} [ColumnFamily τ] (cursor : σ) (slots : List (Slot τ)),
    columns (fetch cursor slots).cursor = columns cursor

/-- The names of the columns of the result. -/
def Cursor.columnNames {σ : Type} [Cursor σ] (cursor : σ) : List String :=
  (Cursor.columns cursor).map (·.name)

/-- The cursors of finite results. -/
class FiniteCursor (σ : Type) [Cursor σ] where
  /-- A bound on the rows that may still be delivered. -/
  remaining : σ → Nat
  remaining_fetch : ∀ {τ : Type} [ColumnFamily τ] (cursor : σ) (slots : List (Slot τ)),
    (Cursor.fetch cursor slots).outcome = .ok true →
      remaining (Cursor.fetch cursor slots).cursor < remaining cursor

section

variable {σ τ : Type} [ColumnFamily τ]

/-- The end of the result: no row, and the slots stay as they are. -/
def noRow (cursor : σ) (slots : List (Slot τ)) (log : Log) : Fetched σ τ :=
  { outcome := .ok false, cursor, slots, log }

/-- A failure to get a row, with the slots as they are. -/
def failedFetch (cursor : σ) (slots : List (Slot τ)) (failure : Failure) : Fetched σ τ :=
  { outcome := .error failure, cursor, slots }

/-- The delivery of a row that the cursor holds. -/
def deliver (cursor : σ) (slots : List (Slot τ)) (row : Row) (log : Log) : Fetched σ τ :=
  match fillRow slots row with
  | (.ok (), slots) => { outcome := .ok true, cursor, slots, log }
  | (.error failure, slots) => { outcome := .error failure, cursor, slots, log }

@[simp]
theorem noRow_cursor (cursor : σ) (slots : List (Slot τ)) (log : Log) :
    (noRow cursor slots log).cursor = cursor := rfl

@[simp]
theorem noRow_outcome (cursor : σ) (slots : List (Slot τ)) (log : Log) :
    (noRow cursor slots log).outcome = .ok false := rfl

@[simp]
theorem failedFetch_cursor (cursor : σ) (slots : List (Slot τ)) (failure : Failure) :
    (failedFetch cursor slots failure).cursor = cursor := rfl

@[simp]
theorem failedFetch_outcome (cursor : σ) (slots : List (Slot τ)) (failure : Failure) :
    (failedFetch cursor slots failure).outcome = .error failure := rfl

@[simp]
theorem deliver_cursor (cursor : σ) (slots : List (Slot τ)) (row : Row) (log : Log) :
    (deliver cursor slots row log).cursor = cursor := by
  unfold deliver
  split <;> rfl

end

end RowBind
