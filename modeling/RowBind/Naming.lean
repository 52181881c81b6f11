import RowBind.Record.Layout
import RowBind.Log
import RowBind.Text.LetterCase

/-!
# Naming the columns of records

A naming turns the field names of a record into column names.  A field that was renamed
keeps its name, any other name goes through the rule of the naming; the names of nested
records stand in front of those of their columns, each with a point.

The columns of a record type are named once and remembered, so a naming can be shared.
Where several columns have one name, the one that lies least deep answers to it, and of
several equally deep ones the first.

Main statements: `NameTable.ofLayout_length`, every column of a layout has its entry; and
`Naming.table_fst`, what was named before makes no difference to the table of a type.
-/

namespace RowBind

open Text

/-- How a column name is made from a field name that was not given explicitly. -/
abbrev NameRule := String → String

/-- Names in lower case.  A name without upper case letters stays as it is. -/
def NameRule.lowercase : NameRule := fun name =>
  if name.toList.any isUpper then String.ofList (toLower name.toList) else name

/-- The name that a field contributes to the names of columns. -/
def FieldName.segment (field : FieldName) (rule : NameRule) : String :=
  if field.renamed then field.name else rule field.name

/-- A column of a record, with its place. -/
structure ColumnEntry where
  /-- The full name of the column. -/
  name : String
  /-- The position among the leaves of the record. -/
  slot : Nat
  /-- The number of inner records around the column. -/
  depth : Nat
deriving DecidableEq, Repr

/-- The full names and the depths of the columns of a layout, `lead` being the names of
the nested records around it and `depth` the number of all records around it. -/
def Layout.namedColumns (rule : NameRule) (lead : String) (depth : Nat) :
    Layout → List (String × Nat)
  | .nil => []
  | .column field rest =>
    (lead ++ field.segment rule, depth) :: rest.namedColumns rule lead depth
  | .embedded _ inner rest =>
    inner.namedColumns rule lead (depth + 1) ++ rest.namedColumns rule lead depth
  | .nested field inner rest =>
    inner.namedColumns rule (lead ++ field.segment rule ++ ".") (depth + 1) ++
      rest.namedColumns rule lead depth

/-- The columns of a record type by name. -/
structure NameTable where
  /-- The columns, in the order of the leaves. -/
  entries : List ColumnEntry
  /-- The columns from the least to the greatest depth. -/
  byDepth : List ColumnEntry
deriving DecidableEq, Repr

namespace NameTable

/-- Names the columns of a layout. -/
def ofLayout (rule : NameRule) (layout : Layout) : NameTable :=
  let entries := (layout.namedColumns rule "" 0).zipIdx.map fun ((name, depth), slot) =>
    { name, slot, depth }
  { entries, byDepth := entries.mergeSort fun a b => decide (a.depth ≤ b.depth) }

/-- The column that answers to a name. -/
def find? (table : NameTable) (name : String) : Option ColumnEntry :=
  table.byDepth.find? (·.name == name)

/-- The number of columns. -/
def length (table : NameTable) : Nat := table.entries.length

theorem namedColumns_length (rule : NameRule) (lead : String) (depth : Nat) (layout : Layout) :
    (layout.namedColumns rule lead depth).length = layout.columnCount := by
  induction layout generalizing lead depth with
  | nil => rfl
  | column _ _ ih => simp [Layout.namedColumns, Layout.columnCount, ih, Nat.add_comm]
  | embedded _ _ _ ihi ihr => simp [Layout.namedColumns, Layout.columnCount, ihi, ihr]
  | nested _ _ _ ihi ihr => simp [Layout.namedColumns, Layout.columnCount, ihi, ihr]

theorem ofLayout_length (rule : NameRule) (layout : Layout) :
    (ofLayout rule layout).length = layout.columnCount := by
  simp [ofLayout, length, namedColumns_length]

end NameTable

/-- A record type as a naming remembers it: its name and its layout. -/
structure TypeKey where
  name : String
  layout : Layout
deriving DecidableEq, Repr

/-- A rule for names, with the tables of the types named so far. -/
structure Naming where
  rule : NameRule
  tables : List (TypeKey × NameTable) := []
  /-- What is remembered of a type is the table of its layout. -/
  tables_ofLayout : ∀ entry ∈ tables, entry.2 = NameTable.ofLayout rule entry.1.layout := by
    simp

namespace Naming

/-- Field names are column names. -/
def asWritten : Naming := { rule := id }

/-- Field names in lower case are column names. -/
def lowercase : Naming := { rule := NameRule.lowercase }

/-- The table of a type, if it was named before. -/
def remembered? (naming : Naming) (key : TypeKey) : Option NameTable :=
  (naming.tables.find? (·.1 == key)).map (·.2)

/-- The naming that remembers one more type. -/
def remember (naming : Naming) (key : TypeKey) : Naming :=
  { naming with
    tables := naming.tables ++ [(key, .ofLayout naming.rule key.layout)]
    tables_ofLayout := by
      intro entry h
      rcases List.mem_append.mp h with h | h
      · exact naming.tables_ofLayout entry h
      · rw [List.mem_singleton.mp h] }

/-- The table of a type, with the naming that remembers it.  The log tells when a type is
named for the first time. -/
def table (naming : Naming) (key : TypeKey) : NameTable × Naming × Log :=
  match naming.remembered? key with
  | some table => (table, naming, [])
  | none =>
    let table := NameTable.ofLayout naming.rule key.layout
    (table, naming.remember key,
      [⟨.debug, s!"Mapped {table.length} columns for type {key.name}"⟩])

/-- How the naming is shown: its rule is hidden, the types named so far are counted. -/
def shown (naming : Naming) : String :=
  "Mapper \x7b name_fn: \"..\", cached: " ++ toString naming.tables.length ++ " \x7d"

/-- What a naming remembers of a type is the table of its layout. -/
theorem eq_ofLayout_of_remembered {naming : Naming} {key : TypeKey} {table : NameTable}
    (h : naming.remembered? key = some table) :
    table = NameTable.ofLayout naming.rule key.layout := by
  obtain ⟨entry, hfind, htable⟩ := Option.map_eq_some_iff.mp h
  have hkey : entry.1 = key := by simpa using List.find?_some hfind
  rw [← htable, ← hkey]
  exact naming.tables_ofLayout entry (List.mem_of_find?_eq_some hfind)

/-- What was named before makes no difference to the table of a type. -/
theorem table_fst (naming : Naming) (key : TypeKey) :
    (naming.table key).1 = NameTable.ofLayout naming.rule key.layout := by
  unfold table
  split
  · next h => exact eq_ofLayout_of_remembered h
  · rfl

/-- Naming a type does not change the rule. -/
theorem table_rule (naming : Naming) (key : TypeKey) :
    (naming.table key).2.1.rule = naming.rule := by
  unfold table
  split <;> rfl

end Naming

end RowBind
