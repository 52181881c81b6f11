import RowBind.Naming

/-!
# Ways to columns

The way to a column starts at the root of a record and crosses the inner records that lie
around the column, embedded ones and nested ones, in any order and to any depth.  The name of
the column is put together along its way: a nested record contributes its own segment and a
point, an embedded one nothing, and the column itself its segment.

So a name can only depend on the rule of a naming where a segment does.  If the column and all
the nested records on its way were renamed, every naming has the same name for it.

Main statements: `table_entries`, a table names the columns along their ways; and
`Way.name_eq_of_fixed`, where two namings agree.
-/

namespace RowBind

/-- An inner record that is crossed on the way to a column. -/
inductive Crossing where
  | embedded (field : FieldName)
  | nested (field : FieldName)
deriving DecidableEq, Repr

namespace Crossing

/-- What an inner record puts in front of the names of its columns. -/
def lead (rule : NameRule) : Crossing → String
  | embedded _ => ""
  | nested field => field.segment rule ++ "."

/-- The inner record contributes the same to all names, whatever the rule. -/
def Fixed : Crossing → Prop
  | embedded _ => True
  | nested field => field.renamed = true

theorem lead_eq_of_fixed {crossing : Crossing} (h : crossing.Fixed) (rule other : NameRule) :
    crossing.lead rule = crossing.lead other := by
  cases crossing with
  | embedded field => rfl
  | nested field =>
      have hrenamed : field.renamed = true := h
      simp [lead, FieldName.segment, hrenamed]

end Crossing

/-- The way from the root of a record to one of its columns. -/
structure Way where
  /-- The inner records on the way, the outermost first. -/
  crossings : List Crossing
  column : FieldName
deriving DecidableEq, Repr

namespace Way

/-- The way through one more record. -/
def through (crossing : Crossing) (way : Way) : Way :=
  { way with crossings := crossing :: way.crossings }

/-- The name of the column, put together along the way. -/
def name (rule : NameRule) (way : Way) : String :=
  way.crossings.foldr (fun crossing name => crossing.lead rule ++ name) (way.column.segment rule)

/-- Whatever contributes to the name was renamed. -/
structure Fixed (way : Way) : Prop where
  crossings : ∀ crossing ∈ way.crossings, crossing.Fixed
  column : way.column.renamed = true

@[simp]
theorem name_through (rule : NameRule) (crossing : Crossing) (way : Way) :
    (way.through crossing).name rule = crossing.lead rule ++ way.name rule := rfl

@[simp]
theorem crossings_through (crossing : Crossing) (way : Way) :
    (way.through crossing).crossings = crossing :: way.crossings := rfl

/-- **Where all segments were renamed, two rules give the same name.** -/
theorem name_eq_of_fixed {way : Way} (h : way.Fixed) (rule other : NameRule) :
    way.name rule = way.name other := by
  obtain ⟨crossings, column⟩ := way
  obtain ⟨hcrossings, hcolumn⟩ := h
  simp only at hcrossings hcolumn
  induction crossings with
  | nil => simp [name, FieldName.segment, hcolumn]
  | cons crossing crossings ih =>
      have hfirst := crossing.lead_eq_of_fixed (hcrossings crossing List.mem_cons_self) rule other
      have hrest := ih fun later hmem => hcrossings later (List.mem_cons_of_mem crossing hmem)
      simp only [name, List.foldr_cons] at hrest ⊢
      rw [hfirst, hrest]

end Way

/-- The ways to the columns of a layout, in the order of the leaves. -/
def Layout.ways : Layout → List Way
  | .nil => []
  | .column field rest => ⟨[], field⟩ :: rest.ways
  | .embedded field inner rest => inner.ways.map (·.through (.embedded field)) ++ rest.ways
  | .nested field inner rest => inner.ways.map (·.through (.nested field)) ++ rest.ways

/-- The columns of a layout are named along their ways. -/
theorem Layout.namedColumns_eq_ways (rule : NameRule) (lead : String) (depth : Nat)
    (layout : Layout) :
    layout.namedColumns rule lead depth =
      layout.ways.map fun way => (lead ++ way.name rule, depth + way.crossings.length) := by
  induction layout generalizing lead depth with
  | nil => rfl
  | column field rest ih => simp [namedColumns, ways, ih, Way.name]
  | embedded field inner rest ihi ihr =>
      simp [namedColumns, ways, ihi, ihr, Crossing.lead, Nat.add_assoc, Nat.add_comm 1]
  | nested field inner rest ihi ihr =>
      simp [namedColumns, ways, ihi, ihr, Crossing.lead, Nat.add_assoc, Nat.add_comm 1,
        String.append_assoc]

/-- The entry for a column at a position, by the way to it. -/
def Way.entry (rule : NameRule) (way : Way) (slot : Nat) : ColumnEntry :=
  { name := way.name rule, slot, depth := way.crossings.length }

/-- **A table names the columns of a type along their ways**, whatever was named before. -/
theorem Naming.table_entries (naming : Naming) (key : TypeKey) :
    (naming.table key).1.entries =
      key.layout.ways.zipIdx.map fun (way, slot) => way.entry naming.rule slot := by
  have hnamed := key.layout.namedColumns_eq_ways naming.rule "" 0
  rw [naming.table_fst, NameTable.ofLayout, hnamed]
  simp [List.zipIdx_map, Way.entry, Function.comp_def]

end RowBind
