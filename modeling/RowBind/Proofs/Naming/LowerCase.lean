import RowBind.Naming
import RowBind.Proofs.Text.LowerCase

/-!
# Names in lower case

A naming in lower case leaves a name without upper case letters as it is, and writes any other
name in lower case.  The shortcut is right as far as the characters that change in lower case
are upper case letters.  Title case letters change too, and they are none.  So a name that has
one of these and no upper case letter is kept, although lower case would change it.

A name is in folded form if lower case leaves it as it is.  Names put together from folded ones
are folded, so it comes down to the fields.

Main statements: `lowercase_eq_iff`, the names for which the shortcut is right; and
`foldsNames_iff`, a naming in lower case folds the names of a type, unless a field has a title
case letter and no upper case one.
-/

namespace RowBind

open Text

/-! ## Names -/

/-- The name is in folded form: it does not change in lower case. -/
def Folded (name : String) : Prop :=
  toLower name.toList = name.toList

instance (name : String) : Decidable (Folded name) :=
  inferInstanceAs (Decidable (_ = _))

theorem folded_empty : Folded "" := rfl

theorem folded_iff {name : String} : Folded name ↔ ∀ c ∈ name.toList, lowerChar c = [c] :=
  toLower_eq_self_iff

theorem folded_append {name other : String} :
    Folded (name ++ other) ↔ Folded name ∧ Folded other := by
  simp [folded_iff, or_imp, forall_and]

theorem folded_lowered (name : String) : Folded (String.ofList (toLower name.toList)) := by
  simp [Folded, toLower_toLower]

/-- The only capitals of the name are halves of title case letters. -/
structure TitleOnly (name : String) : Prop where
  title : ∃ c ∈ name.toList, isTitle c = true
  upper : ∀ c ∈ name.toList, isUpper c = false

/-- A name without upper case letters is in folded form unless it has a title case letter. -/
theorem folded_iff_of_upper {name : String} (h : ∀ c ∈ name.toList, isUpper c = false) :
    Folded name ↔ ¬ TitleOnly name := by
  rw [folded_iff]
  constructor
  · rintro hsame ⟨⟨c, hc, htitle⟩, -⟩
    exact lowerChar_ne_self_of_isTitle htitle (hsame c hc)
  · intro hno c hc
    refine Decidable.byContradiction fun hchanges => ?_
    obtain hupper | htitle := isUpper_or_isTitle hchanges
    · rw [h c hc] at hupper
      cases hupper
    · exact hno ⟨⟨c, hc, htitle⟩, h⟩

/-- **The shortcut for names without upper case letters** is right, unless all capitals of the
name are halves of title case letters. -/
theorem lowercase_eq_iff (name : String) :
    NameRule.lowercase name = String.ofList (toLower name.toList) ↔ ¬ TitleOnly name := by
  rw [NameRule.lowercase]
  split
  · next hupper =>
    refine iff_of_true rfl fun h => ?_
    obtain ⟨c, hc, hcapital⟩ := List.any_eq_true.mp hupper
    rw [h.upper c hc] at hcapital
    cases hcapital
  · next hupper =>
    rw [← folded_iff_of_upper (by simpa using hupper), Folded, eq_comm, ← String.toList_inj,
      String.toList_ofList]

/-! ## Names of a type -/

/-- The fields whose names go into the names of the columns. -/
def Layout.namingFields : Layout → List FieldName
  | .nil => []
  | .column field rest => field :: rest.namingFields
  | .embedded _ inner rest => inner.namingFields ++ rest.namingFields
  | .nested field inner rest => field :: (inner.namingFields ++ rest.namingFields)

/-- Names put together from folded ones are folded. -/
theorem folded_of_mem_namedColumns {rule : NameRule} {lead : String} {depth : Nat}
    {layout : Layout} (hlead : Folded lead)
    (hfields : ∀ field ∈ layout.namingFields, Folded (field.segment rule))
    {column : String × Nat} (h : column ∈ layout.namedColumns rule lead depth) :
    Folded column.1 := by
  induction layout generalizing lead depth with
  | nil => cases h
  | column field rest ih =>
      obtain ⟨hfield, hrest⟩ := List.forall_mem_cons.mp hfields
      obtain rfl | hlater := List.mem_cons.mp h
      · exact folded_append.mpr ⟨hlead, hfield⟩
      · exact ih hlead hrest hlater
  | embedded field inner rest ihi ihr =>
      obtain ⟨hinner, hrest⟩ := List.forall_mem_append.mp hfields
      obtain hin | hlater := List.mem_append.mp h
      · exact ihi hlead hinner hin
      · exact ihr hlead hrest hlater
  | nested field inner rest ihi ihr =>
      obtain ⟨hfield, hothers⟩ := List.forall_mem_cons.mp hfields
      obtain ⟨hinner, hrest⟩ := List.forall_mem_append.mp hothers
      obtain hin | hlater := List.mem_append.mp h
      · refine ihi ?_ hinner hin
        exact folded_append.mpr ⟨folded_append.mpr ⟨hlead, hfield⟩, by decide⟩
      · exact ihr hlead hrest hlater

/-- What is to be expected of the names of a type in a naming in lower case. -/
structure FoldsNames (key : TypeKey) : Prop where
  /-- A field that was not renamed contributes its name in lower case. -/
  lowered : ∀ field ∈ key.layout.namingFields, field.renamed = false →
    field.segment Naming.lowercase.rule = String.ofList (toLower field.name.toList)
  /-- All columns have names in folded form, if that is so of the names that were given. -/
  folded : (∀ field ∈ key.layout.namingFields, field.renamed = true → Folded field.name) →
    ∀ entry ∈ (Naming.lowercase.table key).1.entries, Folded entry.name

/-- **A naming in lower case folds the names of a type**, unless the only capitals in the name
of a field, which was not renamed, are halves of title case letters. -/
theorem foldsNames_iff (key : TypeKey) :
    FoldsNames key ↔
      ¬ ∃ field ∈ key.layout.namingFields, field.renamed = false ∧ TitleOnly field.name := by
  have hsegment (field : FieldName) (hplain : field.renamed = false) :
      field.segment Naming.lowercase.rule = NameRule.lowercase field.name := by
    simp [FieldName.segment, hplain, Naming.lowercase]
  constructor
  · rintro h ⟨field, hmem, hplain, htitle⟩
    have hlowered := h.lowered field hmem hplain
    rw [hsegment field hplain, lowercase_eq_iff] at hlowered
    exact hlowered htitle
  · intro hno
    have hlowered : ∀ field ∈ key.layout.namingFields, field.renamed = false →
        field.segment Naming.lowercase.rule = String.ofList (toLower field.name.toList) := by
      intro field hmem hplain
      rw [hsegment field hplain, lowercase_eq_iff]
      exact fun htitle => hno ⟨field, hmem, hplain, htitle⟩
    refine ⟨hlowered, fun hgiven entry hentry => ?_⟩
    have hfields : ∀ field ∈ key.layout.namingFields,
        Folded (field.segment Naming.lowercase.rule) := by
      intro field hmem
      cases hrenamed : field.renamed with
      | true => simpa [FieldName.segment, hrenamed] using hgiven field hmem hrenamed
      | false =>
          rw [hlowered field hmem hrenamed]
          exact folded_lowered field.name
    rw [Naming.table_fst, NameTable.ofLayout] at hentry
    obtain ⟨⟨column, slot⟩, hcolumn, rfl⟩ := List.mem_map.mp hentry
    exact folded_of_mem_namedColumns folded_empty hfields (List.fst_mem_of_mem_zipIdx hcolumn)

/-- A field with the name of a title case letter is not written in lower case. -/
theorem not_foldsNames_title :
    let field : FieldName := ⟨"ǅ", "ǅ", false⟩
    field.segment Naming.lowercase.rule = "ǅ" ∧ String.ofList (toLower "ǅ".toList) = "ǆ" ∧
      ¬ FoldsNames ⟨"Digraph", .column field .nil⟩ := by
  intro field
  have hsegment : field.segment Naming.lowercase.rule = "ǅ" := by decide
  have hlower : String.ofList (toLower "ǅ".toList) = "ǆ" := by decide
  refine ⟨hsegment, hlower, fun h => ?_⟩
  have hlowered := h.lowered field List.mem_cons_self rfl
  rw [hsegment, hlower] at hlowered
  exact absurd hlowered (by decide)

end RowBind
