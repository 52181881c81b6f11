import RowBind.Naming
import RowBind.Record

/-!
# Which leaf answers to a name

The leaves of a record are walked through once more here, each with its full name, its
depth and its cell side by side.  Of the leaves of one name the least deep one answers to
it, and of several equally deep ones the first.  The table of a record type is a sorted
list of names and positions and knows nothing of the cells; that it finds the leaf that
answers is what ties names, positions and cells together.

The sort is stable, so columns of one depth keep their order; the table is sorted strictly
by depth and position, and the first entry of a name in it is the one that precedes all
others.

Main statements: `leaves_map_cell` and `leaves_map_name`, the walk meets the cells and the
named columns in their order; `byDepth_pairwise`, how the table is sorted; and
`find?_slot_eq_some_iff`, the table finds the leaf that answers, and nothing else.
-/

namespace RowBind

/-! ## Leaves -/

/-- A leaf of a record, with what it is called. -/
structure Leaf (τ : Type) [ColumnFamily τ] where
  /-- The full name of its column. -/
  name : String
  /-- The number of inner records around it. -/
  depth : Nat
  cell : Cell τ

namespace Record

variable {τ : Type} [ColumnFamily τ]

/-- The leaves of a record that lies in `depth` others, `lead` standing in front of the
names. -/
def leavesFrom (rule : NameRule) (lead : String) (depth : Nat) : Record τ → List (Leaf τ)
  | nil => []
  | column field cell rest =>
    ⟨lead ++ field.segment rule, depth, cell⟩ :: rest.leavesFrom rule lead depth
  | ignored _ _ rest => rest.leavesFrom rule lead depth
  | embedded _ inner rest =>
    inner.leavesFrom rule lead (depth + 1) ++ rest.leavesFrom rule lead depth
  | nested field inner rest =>
    inner.leavesFrom rule (lead ++ field.segment rule ++ ".") (depth + 1) ++
      rest.leavesFrom rule lead depth

/-- The leaves of a record. -/
def leaves (rule : NameRule) (record : Record τ) : List (Leaf τ) :=
  record.leavesFrom rule "" 0

/-- The leaf at position `k` answers to the name: among the leaves of that name, it is the
least deep one, or the first of those. -/
def Answers (rule : NameRule) (record : Record τ) (name : String) (k : Nat) : Prop :=
  ∃ leaf, (record.leaves rule)[k]? = some leaf ∧ leaf.name = name ∧
    ∀ (j : Nat) (other : Leaf τ), (record.leaves rule)[j]? = some other → other.name = name →
      leaf.depth < other.depth ∨ leaf.depth = other.depth ∧ k ≤ j

theorem leavesFrom_map_cell (rule : NameRule) (lead : String) (depth : Nat)
    (record : Record τ) : (record.leavesFrom rule lead depth).map (·.cell) = record.cells := by
  induction record generalizing lead depth with
  | nil => rfl
  | column _ _ _ ih => simp [leavesFrom, cells, ih]
  | ignored _ _ _ ih => simpa [leavesFrom, cells] using ih lead depth
  | embedded _ _ _ ihi ihr => simp [leavesFrom, cells, ihi, ihr]
  | nested _ _ _ ihi ihr => simp [leavesFrom, cells, ihi, ihr]

theorem leavesFrom_map_name (rule : NameRule) (lead : String) (depth : Nat)
    (record : Record τ) :
    (record.leavesFrom rule lead depth).map (fun leaf => (leaf.name, leaf.depth)) =
      record.layout.namedColumns rule lead depth := by
  induction record generalizing lead depth with
  | nil => rfl
  | column _ _ _ ih => simp [leavesFrom, layout, Layout.namedColumns, ih]
  | ignored _ _ _ ih => simpa [leavesFrom, layout] using ih lead depth
  | embedded _ _ _ ihi ihr => simp [leavesFrom, layout, Layout.namedColumns, ihi, ihr]
  | nested _ _ _ ihi ihr => simp [leavesFrom, layout, Layout.namedColumns, ihi, ihr]

/-- The leaves have the cells to which rows are routed. -/
theorem leaves_map_cell (rule : NameRule) (record : Record τ) :
    (record.leaves rule).map (·.cell) = record.cells :=
  leavesFrom_map_cell rule "" 0 record

/-- The leaves have the names and depths of the columns of the layout. -/
theorem leaves_map_name (rule : NameRule) (record : Record τ) :
    (record.leaves rule).map (fun leaf => (leaf.name, leaf.depth)) =
      record.layout.namedColumns rule "" 0 :=
  leavesFrom_map_name rule "" 0 record

/-- No two leaves answer to one name. -/
theorem Answers.unique {rule : NameRule} {record : Record τ} {name : String} {k l : Nat}
    (hk : record.Answers rule name k) (hl : record.Answers rule name l) : k = l := by
  obtain ⟨leaf, hleaf, hname, hleast⟩ := hk
  obtain ⟨other, hother, hname', hleast'⟩ := hl
  have hforth := hleast l other hother hname'
  have hback := hleast' k leaf hleaf hname
  omega

end Record

/-! ## The order of a table -/

/-- The column answers to its name before another of the same name. -/
def ColumnEntry.Precedes (a b : ColumnEntry) : Prop :=
  a.depth < b.depth ∨ a.depth = b.depth ∧ a.slot < b.slot

namespace NameTable

/-- The columns lie in the order of their positions. -/
theorem entries_pairwise (rule : NameRule) (layout : Layout) :
    (ofLayout rule layout).entries.Pairwise (fun a b => a.slot < b.slot) := by
  have hslots : (ofLayout rule layout).entries.map (·.slot) =
      List.range' 0 (layout.namedColumns rule "" 0).length := by
    rw [← List.zipIdx_map_snd, ofLayout, List.map_map]
    rfl
  rw [← List.pairwise_map (f := ColumnEntry.slot), hslots]
  exact List.pairwise_lt_range'

/-- Sorting by depth keeps the order of the columns of one depth. -/
theorem filter_mergeSort_depth (entries : List ColumnEntry) (depth : Nat) :
    (entries.mergeSort fun a b => decide (a.depth ≤ b.depth)).filter (·.depth == depth) =
      entries.filter (·.depth == depth) := by
  have hperm := (List.mergeSort_perm entries fun a b => decide (a.depth ≤ b.depth)).filter
    (·.depth == depth)
  have hlevel : (entries.filter (·.depth == depth)).Pairwise
      (fun a b => decide (a.depth ≤ b.depth) = true) := by
    refine List.pairwise_of_forall_mem_list fun a ha b hb => ?_
    have hdepth : a.depth = depth ∧ b.depth = depth := by simp_all
    simp [hdepth]
  have hsub : (entries.filter (·.depth == depth)).Sublist
      (entries.mergeSort fun a b => decide (a.depth ≤ b.depth)) := by
    refine List.sublist_mergeSort ?_ ?_ hlevel List.filter_sublist
    · intro a b c hab hbc
      simp at hab hbc ⊢
      omega
    · intro a b
      simp
      omega
  have hkept := hsub.filter (·.depth == depth)
  rw [List.filter_filter] at hkept
  simp only [Bool.and_self] at hkept
  exact (hkept.eq_of_length hperm.length_eq.symm).symm

/-- **The order of the table.**  The columns are sorted by their depth, and those of one
depth by their position. -/
theorem byDepth_pairwise (rule : NameRule) (layout : Layout) :
    (ofLayout rule layout).byDepth.Pairwise ColumnEntry.Precedes := by
  have hsorted : (ofLayout rule layout).byDepth.Pairwise
      (fun a b => decide (a.depth ≤ b.depth) = true) := by
    refine List.pairwise_mergeSort ?_ ?_ _
    · intro a b c hab hbc
      simp at hab hbc ⊢
      omega
    · intro a b
      simp
      omega
  rw [List.pairwise_iff_forall_sublist] at hsorted ⊢
  intro a b hab
  have hle : a.depth ≤ b.depth := by simpa using hsorted hab
  rcases Nat.lt_or_eq_of_le hle with hlt | heq
  · exact Or.inl hlt
  · refine Or.inr ⟨heq, ?_⟩
    have hlevel := hab.filter (·.depth == a.depth)
    have hstable : (ofLayout rule layout).byDepth.filter (·.depth == a.depth) =
        (ofLayout rule layout).entries.filter (·.depth == a.depth) :=
      filter_mergeSort_depth _ a.depth
    rw [hstable] at hlevel
    have hpair : [a, b].filter (·.depth == a.depth) = [a, b] := by simp [heq]
    rw [hpair] at hlevel
    exact List.pairwise_iff_forall_sublist.mp (entries_pairwise rule layout)
      (hlevel.trans List.filter_sublist)

/-! ## What a table finds -/

/-- In a list that is sorted strictly, the first element with a property precedes the
others that have it. -/
theorem find?_precedes {entries : List ColumnEntry} (h : entries.Pairwise ColumnEntry.Precedes)
    {p : ColumnEntry → Bool} {entry : ColumnEntry} (hfind : entries.find? p = some entry)
    {other : ColumnEntry} (hmem : other ∈ entries) (hp : p other = true) :
    other = entry ∨ entry.Precedes other := by
  induction entries with
  | nil => simp at hfind
  | cons first rest ih =>
      obtain ⟨hfirst, hrest⟩ := List.pairwise_cons.mp h
      by_cases hpf : p first = true
      · rw [List.find?_cons_of_pos hpf, Option.some.injEq] at hfind
        subst hfind
        exact (List.mem_cons.mp hmem).imp id fun hin => hfirst other hin
      · rw [List.find?_cons_of_neg hpf] at hfind
        rcases List.mem_cons.mp hmem with rfl | hin
        · exact absurd hp hpf
        · exact ih hrest hfind hin

variable {τ : Type} [ColumnFamily τ]

/-- The columns of a table are the leaves of the record with their positions. -/
theorem mem_entries_iff {rule : NameRule} {record : Record τ} {entry : ColumnEntry} :
    entry ∈ (ofLayout rule record.layout).entries ↔
      ∃ leaf, (record.leaves rule)[entry.slot]? = some leaf ∧ leaf.name = entry.name ∧
        leaf.depth = entry.depth := by
  have hnamed : ∀ k : Nat, (record.layout.namedColumns rule "" 0)[k]? =
      ((record.leaves rule)[k]?).map fun leaf => (leaf.name, leaf.depth) := by
    intro k
    rw [← record.leaves_map_name rule, List.getElem?_map]
  constructor
  · intro hmem
    obtain ⟨⟨⟨name, depth⟩, slot⟩, hin, rfl⟩ := List.mem_map.mp hmem
    have hat := List.mem_zipIdx_iff_getElem?.mp hin
    rw [hnamed, Option.map_eq_some_iff] at hat
    obtain ⟨leaf, hleaf, hpair⟩ := hat
    cases hpair
    exact ⟨leaf, hleaf, rfl, rfl⟩
  · rintro ⟨leaf, hleaf, hname, hdepth⟩
    refine List.mem_map.mpr ⟨((leaf.name, leaf.depth), entry.slot), ?_, by simp [hname, hdepth]⟩
    rw [List.mem_zipIdx_iff_getElem?, hnamed, hleaf]
    rfl

/-- **What a table finds.**  The column that the table of a record type has for a name
leads to the leaf that answers to it. -/
theorem find?_slot_eq_some_iff {rule : NameRule} {record : Record τ} {name : String}
    {k : Nat} :
    ((ofLayout rule record.layout).find? name).map (·.slot) = some k ↔
      record.Answers rule name k := by
  have hsort : ∀ entry, entry ∈ (ofLayout rule record.layout).byDepth ↔
      entry ∈ (ofLayout rule record.layout).entries := fun entry => List.mem_mergeSort
  have hanswers : ∀ entry, (ofLayout rule record.layout).find? name = some entry →
      record.Answers rule name entry.slot := by
    intro entry hfind
    have hmem := (hsort entry).mp (List.mem_of_find?_eq_some hfind)
    obtain ⟨leaf, hleaf, hname, hdepth⟩ := mem_entries_iff.mp hmem
    have hsame : entry.name = name := by simpa using List.find?_some hfind
    refine ⟨leaf, hleaf, hname.trans hsame, fun j other hother hothername => ?_⟩
    have hin : (⟨name, j, other.depth⟩ : ColumnEntry) ∈
        (ofLayout rule record.layout).entries :=
      mem_entries_iff.mpr ⟨other, hother, hothername, rfl⟩
    rcases find?_precedes (byDepth_pairwise rule record.layout) hfind ((hsort _).mpr hin)
      (by simp) with heq | hprec
    · simp [← heq] at hdepth ⊢
      omega
    · rw [ColumnEntry.Precedes] at hprec
      simp only at hprec
      omega
  constructor
  · intro hfind
    obtain ⟨entry, hentry, rfl⟩ := Option.map_eq_some_iff.mp hfind
    exact hanswers entry hentry
  · intro hk
    obtain ⟨leaf, hleaf, hname, -⟩ := id hk
    have hin : (⟨name, k, leaf.depth⟩ : ColumnEntry) ∈
        (ofLayout rule record.layout).byDepth :=
      (hsort _).mpr (mem_entries_iff.mpr ⟨leaf, hleaf, hname, rfl⟩)
    cases hfind : (ofLayout rule record.layout).find? name with
    | none =>
        have hnone := List.find?_eq_none.mp hfind _ hin
        simp at hnone
    | some entry =>
        rw [Option.map_some, (hanswers entry hfind).unique hk]

end NameTable

end RowBind
