import Mathlib.Data.List.Perm.Basic
import RowBind.Proofs.Declaration.Resolving

/-!
# Arguments in any order

The arguments of a field can stand in any order, and in one attribute or in several.  What counts
is which roles are asked for and which name is given: two fields that are asked for the same, with
one name at the most, come to the same or are both refused.

A field is refused for a second role, be it the same one again, and for a name where it is
embedded.  Otherwise it plays the role that is asked for and has the name that is given.

Main statement: `resolveField_any_order`, two spellings of the same arguments, and what they come
to.
-/

namespace RowBind.Declaration

variable {asked asked' : List FieldArgument}

/-! ## What is asked for, in another order -/

theorem rolesIn_perm (h : asked.Perm asked') : (rolesIn asked).Perm (rolesIn asked') :=
  h.filterMap _

theorem namesIn_perm (h : asked.Perm asked') : (namesIn asked).Perm (namesIn asked') :=
  h.filterMap _

/-- Names, of which there is one at the most. -/
theorem namesIn_eq_of_length_le_one (h : (namesIn asked).length ≤ 1) :
    namesIn asked = (givenName? asked).toList := by
  rw [givenName?_eq_getLast?]
  rcases hnames : namesIn asked with _ | ⟨name, _ | ⟨second, names⟩⟩
  · rfl
  · rfl
  · simp [hnames] at h

/-- One name at the most is the same one in any order. -/
theorem givenName?_eq_of_perm (hperm : asked.Perm asked') (hname : (namesIn asked).length ≤ 1) :
    givenName? asked = givenName? asked' := by
  have hnames := namesIn_perm hperm
  have hname' : (namesIn asked').length ≤ 1 := by
    rwa [← hnames.length_eq]
  rw [namesIn_eq_of_length_le_one hname, namesIn_eq_of_length_le_one hname'] at hnames
  exact List.perm_option_toList.mp hnames

/-- A field that is what was asked for is so in any order. -/
theorem ResolvedField.Heeds.of_perm {field : ResolvedField} {ident : String}
    (h : field.Heeds ident asked) (hperm : asked.Perm asked')
    (hname : (namesIn asked).length ≤ 1) : field.Heeds ident asked' := by
  have hgiven := givenName?_eq_of_perm hperm hname
  have hroles := rolesIn_perm hperm
  refine ⟨h.ident_eq, ?_, hgiven ▸ h.name_eq, hgiven ▸ h.renamed_eq, hgiven ▸ h.embedded⟩
  obtain ⟨hnone, hcolumn⟩ | hone := h.role_eq
  · rw [hnone] at hroles
    exact .inl ⟨List.nil_perm.mp hroles, hcolumn⟩
  · rw [hone] at hroles
    exact .inr (List.perm_singleton.mp hroles.symm)

/-! ## Two spellings -/

/-- A field whose arguments are written as they should be comes to what they ask for. -/
theorem resolveField_eq_ok_iff_of_written {ident : String} {attributes : List Attribute}
    (h : Written FieldForm attributes asked) {field : ResolvedField} :
    resolveField ⟨ident, attributes⟩ = .ok field ↔ field.Heeds ident asked :=
  resolveField_eq_ok_iff ((written_iff understands_field).mp h).1

/-- What is to be expected of a field that is asked for one name at the most. -/
structure Settled (ident : String) (attributes : List Attribute)
    (asked : List FieldArgument) : Prop where
  /-- It is refused exactly for a second role, and for a name where it is embedded. -/
  refused_iff : (∃ e, resolveField ⟨ident, attributes⟩ = .error e) ↔
    2 ≤ (rolesIn asked).length ∨ (namesIn asked ≠ [] ∧ .embedded ∈ rolesIn asked)
  /-- Otherwise it plays the role that is asked for, or that of a column. -/
  role_eq : ∀ {field}, resolveField ⟨ident, attributes⟩ = .ok field →
    rolesIn asked = [] ∧ field.role = .column ∨ rolesIn asked = [field.role]
  /-- It counts as renamed exactly if a name is given. -/
  renamed_iff : ∀ {field}, resolveField ⟨ident, attributes⟩ = .ok field →
    (field.renamed = true ↔ namesIn asked ≠ [])
  /-- That is its name then, and else it has its own. -/
  name_eq : ∀ {field}, resolveField ⟨ident, attributes⟩ = .ok field →
    namesIn asked = [] ∧ field.name = plainName ident ∨ namesIn asked = [field.name]

/-- A field is settled by what it is asked for. -/
theorem settled_of_written {ident : String} {attributes : List Attribute}
    (h : Written FieldForm attributes asked) (hname : (namesIn asked).length ≤ 1) :
    Settled ident attributes asked where
  refused_iff := by
    have haccepted : (∃ field, resolveField ⟨ident, attributes⟩ = .ok field) ↔
        (rolesIn asked).length ≤ 1 ∧ (.embedded ∈ rolesIn asked → namesIn asked = []) :=
      (exists_congr fun _ => resolveField_eq_ok_iff_of_written h).trans exists_heeds_iff
    have hrefused : (∃ e, resolveField ⟨ident, attributes⟩ = .error e) ↔
        ¬ ∃ field, resolveField ⟨ident, attributes⟩ = .ok field := by
      cases resolveField ⟨ident, attributes⟩ <;> simp
    rw [hrefused, haccepted, Classical.not_and_iff_not_or_not, Classical.not_imp, Nat.not_le,
      and_comm]
    rfl
  role_eq hfield := ((resolveField_eq_ok_iff_of_written h).mp hfield).role_eq
  renamed_iff hfield := by
    have hrenamed := ((resolveField_eq_ok_iff_of_written h).mp hfield).renamed_eq
    rw [hrenamed, Option.isSome_iff_ne_none, namesIn_eq_of_length_le_one hname]
    exact not_congr Option.toList_eq_nil_iff.symm
  name_eq hfield := by
    have hheeds := ((resolveField_eq_ok_iff_of_written h).mp hfield).name_eq
    rw [namesIn_eq_of_length_le_one hname]
    cases hgiven : givenName? asked with
    | none => exact .inl ⟨rfl, by rw [hheeds, hgiven]; rfl⟩
    | some name => exact .inr (by rw [hheeds, hgiven]; rfl)

/-- **Order and grouping do not matter.**  Two spellings of the same arguments, with one name at
the most, come to the same field, or both are refused. -/
theorem resolveField_any_order {ident : String} {attributes attributes' : List Attribute}
    (h : Written FieldForm attributes asked) (h' : Written FieldForm attributes' asked')
    (hperm : asked.Perm asked') (hname : (namesIn asked).length ≤ 1) :
    (∀ field, resolveField ⟨ident, attributes⟩ = .ok field ↔
        resolveField ⟨ident, attributes'⟩ = .ok field) ∧
      Settled ident attributes asked := by
  refine ⟨fun field => ?_, settled_of_written h hname⟩
  rw [resolveField_eq_ok_iff_of_written h, resolveField_eq_ok_iff_of_written h']
  have hname' : (namesIn asked').length ≤ 1 := by
    rwa [← (namesIn_perm hperm).length_eq]
  exact ⟨fun hheeds => hheeds.of_perm hperm hname, fun hheeds => hheeds.of_perm hperm.symm hname'⟩

/-- A name and a role, in one attribute or in two and the other way round. -/
theorem resolveField_any_order_regrouped :
    let together : List Attribute :=
      [.arguments [.identifier "name", .equals, .text "kept", .comma, .identifier "nested"]]
    let apart : List Attribute :=
      [.arguments [.identifier "nested", .comma], .foreign,
        .arguments [.identifier "name", .equals, .text "kept"]]
    (∀ field, resolveField ⟨"_line", together⟩ = .ok field ↔
        resolveField ⟨"_line", apart⟩ = .ok field) ∧
      Settled "_line" together [.name "kept", .role .nested "nested"] := by
  intro together apart
  have htogether : Written FieldForm together [.name "kept", .role .nested "nested"] :=
    .arguments (.cons (FieldForm.name "kept") (.last FieldForm.nested)) .nil
  have hapart : Written FieldForm apart [.role .nested "nested", .name "kept"] :=
    .arguments (.cons FieldForm.nested .nil)
      (.foreign (.arguments (.last (FieldForm.name "kept")) .nil))
  exact resolveField_any_order htogether hapart (.swap _ _ _) (Nat.le_refl 1)

end RowBind.Declaration
