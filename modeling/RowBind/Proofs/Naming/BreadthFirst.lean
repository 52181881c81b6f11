import RowBind.Proofs.Naming.Answers
import RowBind.Proofs.Record.Place

/-!
# Names are found breadth first

The fields of a record form a tree.  Which of several columns of one name answers to it is
settled level by level: the columns of the record itself come first, then those of the
records it holds, then those of the records these hold, and within a level the order is that
of the declaration.  That is the breadth-first walk over the tree, with a queue of sibling
fields that are still to be walked over.

A table is made in another way.  The tree is walked over depth first, the columns get their
positions, and then they are sorted by their depth.  Both orders are strict orders by depth
and position: for the sorted list that is the stability of the sort, for the walk it is an
invariant of its queue.  The walk meets the columns of the list, so the two are one list.

Main statements: `breadthFirst_perm` and `breadthFirst_pairwise`, what the walk meets and in
which order; `byDepth_eq_levelOrder`, the columns of a table lie in the order of the walk;
and `find?_breadthFirst`, which column answers to a name.
-/

namespace RowBind

/-! ## The walk -/

/-- How much there is to walk over in a layout: its fields, those of the records it holds, and
the end of each. -/
def Layout.size : Layout → Nat
  | nil => 1
  | column _ rest => rest.size + 1
  | embedded _ inner rest => inner.size + rest.size + 1
  | nested _ inner rest => inner.size + rest.size + 1

/-- Sibling fields of an inner record, or of the record itself. -/
structure Siblings where
  /-- The names of the nested records around them, each with a point. -/
  lead : String
  /-- The number of inner records around them. -/
  depth : Nat
  /-- The position of the first of their columns among all leaves. -/
  slot : Nat
  fields : Layout

namespace Siblings

/-- The position behind the last of their columns. -/
def stop (siblings : Siblings) : Nat := siblings.slot + siblings.fields.columnCount

/-- Their columns depth first. -/
def entries (rule : NameRule) (siblings : Siblings) : List ColumnEntry :=
  ((siblings.fields.namedColumns rule siblings.lead siblings.depth).zipIdx siblings.slot).map
    fun ((name, depth), slot) => { name, slot, depth }

/-- How much there is to walk over in a queue. -/
def size : List Siblings → Nat
  | [] => 0
  | siblings :: queue => siblings.fields.size + size queue

theorem size_append (front back : List Siblings) :
    size (front ++ back) = size front + size back := by
  induction front with
  | nil => simp [size]
  | cons siblings front ih => simp [size, ih, Nat.add_assoc]

/-- In the queue of the walk, some siblings lie before others: they lie on one level, with
their columns in front of those of the others, or one level higher, where the walk has come
past the others already. -/
def Before (a b : Siblings) : Prop :=
  a.depth = b.depth ∧ a.stop ≤ b.slot ∨ a.depth + 1 = b.depth ∧ b.stop ≤ a.slot

end Siblings

/-- Walks over the siblings in a queue, field by field.  The fields of an inner record are
put at the end of the queue. -/
def breadthFirst (rule : NameRule) : List Siblings → List ColumnEntry
  | [] => []
  | ⟨_, _, _, .nil⟩ :: queue => breadthFirst rule queue
  | ⟨lead, depth, slot, .column field rest⟩ :: queue =>
    { name := lead ++ field.segment rule, slot, depth } ::
      breadthFirst rule (⟨lead, depth, slot + 1, rest⟩ :: queue)
  | ⟨lead, depth, slot, .embedded _ inner rest⟩ :: queue =>
    breadthFirst rule (⟨lead, depth, slot + inner.columnCount, rest⟩ ::
      (queue ++ [⟨lead, depth + 1, slot, inner⟩]))
  | ⟨lead, depth, slot, .nested field inner rest⟩ :: queue =>
    breadthFirst rule (⟨lead, depth, slot + inner.columnCount, rest⟩ ::
      (queue ++ [⟨lead ++ field.segment rule ++ ".", depth + 1, slot, inner⟩]))
termination_by queue => Siblings.size queue
decreasing_by
  -- a field that is walked over leaves the queue, and at most its own fields come in
  all_goals
    simp only [Siblings.size, Siblings.size_append, Layout.size]
    omega

/-- The columns of a layout in the order of the breadth-first walk. -/
def Layout.levelOrder (layout : Layout) (rule : NameRule) : List ColumnEntry :=
  breadthFirst rule [{ lead := "", depth := 0, slot := 0, fields := layout }]

/-! ## What the walk meets -/

namespace Siblings

variable {rule : NameRule} {lead : String} {depth slot : Nat}

theorem entries_column {field : FieldName} {rest : Layout} :
    entries rule ⟨lead, depth, slot, .column field rest⟩ =
      ⟨lead ++ field.segment rule, slot, depth⟩ :: entries rule ⟨lead, depth, slot + 1, rest⟩ := by
  simp [entries, Layout.namedColumns]

theorem entries_embedded {field : FieldName} {inner rest : Layout} :
    entries rule ⟨lead, depth, slot, .embedded field inner rest⟩ =
      entries rule ⟨lead, depth + 1, slot, inner⟩ ++
        entries rule ⟨lead, depth, slot + inner.columnCount, rest⟩ := by
  simp [entries, Layout.namedColumns, List.zipIdx_append, NameTable.namedColumns_length]

theorem entries_nested {field : FieldName} {inner rest : Layout} :
    entries rule ⟨lead, depth, slot, .nested field inner rest⟩ =
      entries rule ⟨lead ++ field.segment rule ++ ".", depth + 1, slot, inner⟩ ++
        entries rule ⟨lead, depth, slot + inner.columnCount, rest⟩ := by
  simp [entries, Layout.namedColumns, List.zipIdx_append, NameTable.namedColumns_length]

/-- The columns of siblings lie at their level or deeper, at positions of their own. -/
theorem bounds_of_mem_entries {siblings : Siblings} {entry : ColumnEntry}
    (h : entry ∈ siblings.entries rule) : siblings.depth ≤ entry.depth ∧
      siblings.slot ≤ entry.slot ∧ entry.slot < siblings.stop := by
  obtain ⟨lead, depth, slot, fields⟩ := siblings
  simp only [stop]
  induction fields generalizing lead depth slot with
  | nil => simp [entries, Layout.namedColumns] at h
  | column field rest ih =>
      rw [entries_column] at h
      rcases List.mem_cons.mp h with rfl | hrest
      · simp only [Layout.columnCount]
        omega
      · have hbounds := ih _ _ _ hrest
        simp only [Layout.columnCount]
        omega
  | embedded field inner rest ihi ihr =>
      rw [entries_embedded] at h
      simp only [Layout.columnCount]
      rcases List.mem_append.mp h with hinner | hrest
      · have hbounds := ihi _ _ _ hinner
        omega
      · have hbounds := ihr _ _ _ hrest
        omega
  | nested field inner rest ihi ihr =>
      rw [entries_nested] at h
      simp only [Layout.columnCount]
      rcases List.mem_append.mp h with hinner | hrest
      · have hbounds := ihi _ _ _ hinner
        omega
      · have hbounds := ihr _ _ _ hrest
        omega

end Siblings

variable {rule : NameRule} {queue : List Siblings}

/-- An inner record whose fields are put at the end of the queue is met all the same. -/
theorem perm_of_entered {inner rest walked : List ColumnEntry} {last : Siblings}
    {queued : Siblings → List ColumnEntry} (hinner : queued last = inner)
    (h : walked.Perm (rest ++ (queue ++ [last]).flatMap queued)) :
    walked.Perm ((inner ++ rest) ++ queue.flatMap queued) := by
  subst hinner
  refine h.trans ?_
  rw [List.flatMap_append, List.flatMap_singleton, ← List.append_assoc]
  exact List.perm_append_comm.trans (by simp)

/-- **The walk meets every column once.** -/
theorem breadthFirst_perm (rule : NameRule) (queue : List Siblings) :
    (breadthFirst rule queue).Perm (queue.flatMap (·.entries rule)) := by
  fun_induction breadthFirst rule queue with
  | case1 => exact .refl _
  | case2 lead depth slot queue ih => simpa [Siblings.entries, Layout.namedColumns] using ih
  | case3 lead depth slot field rest queue ih =>
      rw [List.flatMap_cons, Siblings.entries_column, List.cons_append]
      exact ih.cons _
  | case4 lead depth slot field inner rest queue ih =>
      rw [List.flatMap_cons, Siblings.entries_embedded]
      exact perm_of_entered rfl ih
  | case5 lead depth slot field inner rest queue ih =>
      rw [List.flatMap_cons, Siblings.entries_nested]
      exact perm_of_entered rfl ih

theorem mem_breadthFirst_iff {entry : ColumnEntry} :
    entry ∈ breadthFirst rule queue ↔ ∃ siblings ∈ queue, entry ∈ siblings.entries rule := by
  rw [(breadthFirst_perm rule queue).mem_iff, List.mem_flatMap]

/-! ## The order of the walk -/

/-- The queue keeps its order when its first siblings are passed up to an inner record,
whose fields are put at its end. -/
theorem pairwise_of_entered {lead lead' : String} {depth slot : Nat} {fields inner rest : Layout}
    (hcount : fields.columnCount = inner.columnCount + rest.columnCount)
    (h : (⟨lead, depth, slot, fields⟩ :: queue).Pairwise Siblings.Before) :
    (⟨lead, depth, slot + inner.columnCount, rest⟩ ::
      (queue ++ [⟨lead', depth + 1, slot, inner⟩])).Pairwise Siblings.Before := by
  obtain ⟨hfirst, hqueue⟩ := List.pairwise_cons.mp h
  simp only [Siblings.Before, Siblings.stop, hcount] at hfirst
  refine List.pairwise_cons.mpr ⟨fun other hother => ?_, ?_⟩
  · rw [Siblings.Before, Siblings.stop]
    rcases List.mem_append.mp hother with hin | hlast
    · have hbefore := hfirst other hin
      simp only [Siblings.stop]
      omega
    · rw [List.mem_singleton.mp hlast]
      exact .inr ⟨rfl, Nat.le_refl _⟩
  · refine List.pairwise_append.mpr ⟨hqueue, List.pairwise_singleton _ _, ?_⟩
    intro other hother last hlast
    have hbefore := hfirst other hother
    rw [List.mem_singleton.mp hlast, Siblings.Before]
    simp only [Siblings.stop]
    omega

/-- The first column of the first siblings precedes all that the walk meets behind it. -/
theorem precedes_of_mem_breadthFirst {lead name : String} {depth slot : Nat} {field : FieldName}
    {rest : Layout} {entry : ColumnEntry}
    (h : (⟨lead, depth, slot, .column field rest⟩ :: queue).Pairwise Siblings.Before)
    (hentry : entry ∈ breadthFirst rule (⟨lead, depth, slot + 1, rest⟩ :: queue)) :
    ColumnEntry.Precedes ⟨name, slot, depth⟩ entry := by
  obtain ⟨siblings, hsiblings, hin⟩ := mem_breadthFirst_iff.mp hentry
  have hbounds := Siblings.bounds_of_mem_entries hin
  rw [ColumnEntry.Precedes]
  rcases List.mem_cons.mp hsiblings with rfl | hqueue
  · simp only at hbounds ⊢
    omega
  · have hbefore := (List.pairwise_cons.mp h).1 siblings hqueue
    simp only [Siblings.Before, Siblings.stop, Layout.columnCount] at hbefore
    simp only
    omega

/-- The first siblings may be passed by a column. -/
theorem pairwise_of_passed {lead : String} {depth slot : Nat} {field : FieldName} {rest : Layout}
    (h : (⟨lead, depth, slot, .column field rest⟩ :: queue).Pairwise Siblings.Before) :
    (⟨lead, depth, slot + 1, rest⟩ :: queue).Pairwise Siblings.Before := by
  obtain ⟨hfirst, hqueue⟩ := List.pairwise_cons.mp h
  refine List.pairwise_cons.mpr ⟨fun other hother => ?_, hqueue⟩
  have hbefore := hfirst other hother
  simp only [Siblings.Before, Siblings.stop, Layout.columnCount] at hbefore ⊢
  omega

/-- **The walk goes level by level**, and from left to right on each. -/
theorem breadthFirst_pairwise (h : queue.Pairwise Siblings.Before) :
    (breadthFirst rule queue).Pairwise ColumnEntry.Precedes := by
  -- along the walk; that the queue is in order is the invariant, and it is kept by every field
  fun_induction breadthFirst rule queue with
  | case1 => exact .nil
  | case2 lead depth slot queue ih => exact ih (List.pairwise_cons.mp h).2
  | case3 lead depth slot field rest queue ih =>
      refine List.pairwise_cons.mpr ⟨fun entry hentry => ?_, ih (pairwise_of_passed h)⟩
      exact precedes_of_mem_breadthFirst h hentry
  | case4 lead depth slot field inner rest queue ih => exact ih (pairwise_of_entered rfl h)
  | case5 lead depth slot field inner rest queue ih => exact ih (pairwise_of_entered rfl h)

/-! ## The order of a table -/

/-- Of two columns only one precedes the other. -/
theorem ColumnEntry.Precedes.asymm {a b : ColumnEntry} (hab : a.Precedes b)
    (hba : b.Precedes a) : False := by
  rw [ColumnEntry.Precedes] at hab hba
  omega

/-- **The columns of a table lie in the order of the walk.** -/
theorem NameTable.byDepth_eq_levelOrder (rule : NameRule) (layout : Layout) :
    (ofLayout rule layout).byDepth = layout.levelOrder rule := by
  have hwalk : (layout.levelOrder rule).Perm (ofLayout rule layout).entries := by
    simpa [Layout.levelOrder, Siblings.entries, ofLayout] using
      breadthFirst_perm rule [⟨"", 0, 0, layout⟩]
  have hsort : (ofLayout rule layout).byDepth.Perm (ofLayout rule layout).entries :=
    List.mergeSort_perm _ _
  refine List.Perm.eq_of_pairwise (fun a b _ _ hab hba => (hab.asymm hba).elim)
    (byDepth_pairwise rule layout) ?_ (hsort.trans hwalk.symm)
  exact breadthFirst_pairwise (List.pairwise_singleton _ _)

/-- The walk meets the columns at the places of the layout. -/
theorem Layout.mem_levelOrder_iff {layout : Layout} {entry : ColumnEntry} :
    entry ∈ layout.levelOrder rule ↔ layout.Lists rule entry := by
  rw [← NameTable.byDepth_eq_levelOrder]
  exact NameTable.mem_byDepth_iff

/-! ## Which column answers -/

/-- How a name is resolved in the fields of a record. -/
structure FoundBreadthFirst (rule : NameRule) (layout : Layout) (name : String)
    (found : Option ColumnEntry) : Prop where
  /-- The walk meets the columns of the layout. -/
  met : ∀ entry, entry ∈ layout.levelOrder rule ↔ layout.Lists rule entry
  /-- It meets them by depth and position. -/
  sorted : (layout.levelOrder rule).Pairwise ColumnEntry.Precedes
  /-- What is found is the first column of the name that the walk meets. -/
  first : found = (layout.levelOrder rule).find? (·.name == name)
  /-- Nothing is found for a name that no column has. -/
  none_iff : found = none ↔ layout.Lacks rule name
  /-- What is found is the column that precedes all others of the name. -/
  some_iff : ∀ entry, found = some entry ↔ layout.Lists rule entry ∧ entry.name = name ∧
    ∀ other, layout.Lists rule other → other.name = name → other = entry ∨ entry.Precedes other

/-- **Names are resolved breadth first**, in the fields of any record and under any rule,
whatever the naming was used for before. -/
theorem Naming.find?_breadthFirst (naming : Naming) (key : TypeKey) (name : String) :
    FoundBreadthFirst naming.rule key.layout name ((naming.table key).1.find? name) := by
  have hsorted : (key.layout.levelOrder naming.rule).Pairwise ColumnEntry.Precedes :=
    breadthFirst_pairwise (List.pairwise_singleton _ _)
  have hfirst : (naming.table key).1.find? name =
      (key.layout.levelOrder naming.rule).find? (·.name == name) := by
    rw [naming.table_fst, NameTable.find?, NameTable.byDepth_eq_levelOrder]
  have hnone : (naming.table key).1.find? name = none ↔ key.layout.Lacks naming.rule name := by
    rw [naming.table_fst]
    exact NameTable.find?_eq_none_iff
  refine ⟨fun entry => Layout.mem_levelOrder_iff, hsorted, hfirst, hnone, fun entry => ?_⟩
  have hleast : ∀ least, (naming.table key).1.find? name = some least →
      key.layout.Lists naming.rule least ∧ least.name = name ∧
        ∀ other, key.layout.Lists naming.rule other → other.name = name →
          other = least ∨ least.Precedes other := by
    intro least hfound
    rw [hfirst] at hfound
    refine ⟨Layout.mem_levelOrder_iff.mp (List.mem_of_find?_eq_some hfound), ?_, ?_⟩
    · simpa using List.find?_some hfound
    · intro other hother hname
      exact NameTable.find?_precedes hsorted hfound (Layout.mem_levelOrder_iff.mpr hother)
        (by simp [hname])
  constructor
  · exact hleast entry
  · rintro ⟨hlists, hname, hprecedes⟩
    cases hfound : (naming.table key).1.find? name with
    | none =>
        exact absurd hname (Layout.lacks_iff.mp (hnone.mp hfound) entry hlists)
    | some least =>
        obtain ⟨hin, hsame, hbefore⟩ := hleast least hfound
        rcases hprecedes least hin hsame with rfl | hentry
        · rfl
        · rcases hbefore entry hlists hname with rfl | hother
          · rfl
          · exact (hentry.asymm hother).elim

end RowBind
