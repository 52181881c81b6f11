import RowBind.Proofs.Declaration.Reading

/-!
# What a declaration comes to

A field is worked out from all that its attributes ask for together.  It plays the one role that
was asked for, and it has the last name; two roles are one too many, and an embedded field has no
name of its own.  A record has its fields worked out first, and renames them in the last word
case that was asked for.

Main statements: `resolveField_eq_ok_iff` and `RecordDeclaration.resolve_eq_ok_iff`, what a field
and a record come to; and `exists_heeds_iff`, which fields come to anything.
-/

namespace RowBind.Declaration

/-! ## Roles and names -/

/-- The role that an argument asks for. -/
def FieldArgument.role? : FieldArgument → Option Role
  | .role wanted _ => some wanted
  | .name _ => none

/-- The name that an argument gives. -/
def FieldArgument.name? : FieldArgument → Option String
  | .name content => some content
  | .role _ _ => none

/-- The roles that are asked for, in order. -/
def rolesIn (asked : List FieldArgument) : List Role :=
  asked.filterMap FieldArgument.role?

/-- The names that are given, in order. -/
def namesIn (asked : List FieldArgument) : List String :=
  asked.filterMap FieldArgument.name?

@[simp]
theorem rolesIn_nil : rolesIn [] = [] := rfl

@[simp]
theorem rolesIn_cons_name (content : String) (asked : List FieldArgument) :
    rolesIn (.name content :: asked) = rolesIn asked := rfl

@[simp]
theorem rolesIn_cons_role (role : Role) (argument : String) (asked : List FieldArgument) :
    rolesIn (.role role argument :: asked) = role :: rolesIn asked := rfl

/-- Where roles are asked for, the first of them is found. -/
theorem exists_find?_role {asked : List FieldArgument} (h : rolesIn asked ≠ []) :
    ∃ role argument, (asked.find? fun
      | .role _ _ => true
      | .name _ => false) = some (.role role argument) := by
  induction asked with
  | nil => exact absurd rfl h
  | cons first asked ih =>
      cases first with
      | name content =>
          rw [rolesIn_cons_name] at h
          exact ih h
      | role role argument => exact ⟨role, argument, rfl⟩

/-- The role is the only one that was asked for, or that of a column. -/
theorem roleOf_eq_ok_iff {ident : String} {asked : List FieldArgument} {role : Role} :
    roleOf ident asked = .ok role ↔
      rolesIn asked = [] ∧ role = .column ∨ rolesIn asked = [role] := by
  fun_induction roleOf ident asked with
  | case1 => simp [eq_comm]
  | case2 content asked ih =>
      rw [rolesIn_cons_name]
      exact ih
  | case3 given name asked second argument hfound =>
      have hmem := List.mem_of_find?_eq_some hfound
      have hsecond : second ∈ rolesIn asked := List.mem_filterMap.mpr ⟨_, hmem, rfl⟩
      have hne : rolesIn asked ≠ [] := List.ne_nil_of_mem hsecond
      simp [hne]
  | case4 given name asked hnone =>
      have hnil : rolesIn asked = [] := by
        by_contra hne
        obtain ⟨second, argument, hfound⟩ := exists_find?_role hne
        exact hnone second argument hfound
      simp [hnil]

/-- The last name is the first one from behind. -/
theorem givenName?_eq_getLast? (asked : List FieldArgument) :
    givenName? asked = (namesIn asked).getLast? := by
  rw [namesIn, ← List.head?_reverse, ← List.filterMap_reverse, List.head?_filterMap]
  rfl

/-! ## Fields -/

/-- The field is what was asked for. -/
structure ResolvedField.Heeds (field : ResolvedField) (ident : String)
    (asked : List FieldArgument) : Prop where
  ident_eq : field.ident = ident
  /-- It plays the one role that was asked for, or else that of a column. -/
  role_eq : rolesIn asked = [] ∧ field.role = .column ∨ rolesIn asked = [field.role]
  /-- It has the last name that was given, or else its own. -/
  name_eq : field.name = (givenName? asked).getD (plainName ident)
  renamed_eq : field.renamed = (givenName? asked).isSome
  /-- An embedded field was given no name. -/
  embedded : field.role = .embedded → givenName? asked = none

/-- **A field comes to what was asked for.** -/
theorem resolveField_eq_ok_iff {field : FieldDeclaration} {asked : List FieldArgument}
    (hgather : gather .fieldAttribute fieldArgument field.attributes = .ok asked)
    {resolved : ResolvedField} :
    resolveField field = .ok resolved ↔ resolved.Heeds field.ident asked := by
  unfold resolveField
  simp only [hgather, bind, Except.bind]
  constructor
  · intro h
    cases hrole : roleOf field.ident asked with
    | error e => simp [hrole] at h
    | ok role =>
        simp only [hrole] at h
        split at h
        · next hname =>
          cases h
          exact ⟨rfl, roleOf_eq_ok_iff.mp hrole, by simp [hname], by simp [hname],
            fun _ => hname⟩
        · next name hname =>
          split at h
          · cases h
          · next hembedded =>
            cases h
            exact ⟨rfl, roleOf_eq_ok_iff.mp hrole, by simp [hname], by simp [hname],
              fun hcase => absurd hcase hembedded⟩
  · intro h
    obtain ⟨ident, name, renamed, role⟩ := resolved
    obtain ⟨hident, hrole, hname, hrenamed, hembedded⟩ := h
    simp only at hident hrole hname hrenamed hembedded
    rw [roleOf_eq_ok_iff.mpr hrole]
    cases hgiven : givenName? asked with
    | none => simp [hgiven, hident, hname, hrenamed, pure, Except.pure]
    | some given =>
        have hopen : role ≠ .embedded := fun hcase => by simp [hembedded hcase] at hgiven
        simp [hgiven, hident, hname, hrenamed, hopen, pure, Except.pure]

/-- A field that comes to anything comes to what its attributes ask for. -/
theorem exists_heeds_of_resolveField {field : FieldDeclaration} {resolved : ResolvedField}
    (h : resolveField field = .ok resolved) :
    ∃ asked, gather .fieldAttribute fieldArgument field.attributes = .ok asked ∧
      resolved.Heeds field.ident asked := by
  cases hgather : gather .fieldAttribute fieldArgument field.attributes with
  | error e => simp [resolveField, hgather, bind, Except.bind] at h
  | ok asked => exact ⟨asked, rfl, (resolveField_eq_ok_iff hgather).mp h⟩

/-- **What can be asked for together**: one role at the most, and no name for an embedded field. -/
theorem exists_heeds_iff {ident : String} {asked : List FieldArgument} :
    (∃ field : ResolvedField, field.Heeds ident asked) ↔
      (rolesIn asked).length ≤ 1 ∧ (.embedded ∈ rolesIn asked → namesIn asked = []) := by
  have hnone : givenName? asked = none ↔ namesIn asked = [] := by
    rw [givenName?_eq_getLast?, List.getLast?_eq_none_iff]
  constructor
  · rintro ⟨field, h⟩
    obtain ⟨hroles, -⟩ | hroles := h.role_eq
    · simp [hroles]
    · rw [hroles]
      refine ⟨Nat.le_refl 1, fun hmem => ?_⟩
      exact hnone.mp (h.embedded (List.mem_singleton.mp hmem).symm)
  · rintro ⟨hlength, hname⟩
    rcases hroles : rolesIn asked with _ | ⟨role, _ | ⟨second, roles⟩⟩
    · exact ⟨⟨ident, _, _, .column⟩, rfl, .inl ⟨hroles, rfl⟩, rfl, rfl, nofun⟩
    · refine ⟨⟨ident, _, _, role⟩, rfl, .inr hroles, rfl, rfl, fun hcase => hnone.mpr ?_⟩
      exact hname (by simp [hroles, ← hcase])
    · simp [hroles] at hlength

/-! ## Records -/

/-- The record is what was asked for, with its fields as they were worked out. -/
structure ResolvedRecord.Heeds (record : ResolvedRecord) (asked : List RecordArgument)
    (fields : List ResolvedField) : Prop where
  decodesItself_iff : record.decodesItself = true ↔ .decode ∈ asked
  /-- Its fields are written in the last word case that was asked for. -/
  fields_eq : record.fields =
    (wordCase? asked).elim fields fun style => fields.map (·.rename style)

/-- **A record comes to what was asked for**, with all its fields. -/
theorem RecordDeclaration.resolve_eq_ok_iff {record : RecordDeclaration}
    {resolved : ResolvedRecord} :
    record.resolve = .ok resolved ↔ record.shape ≠ .tuple ∧ ∃ fields asked,
      record.fields.mapM resolveField = .ok fields ∧
        gather .recordAttribute recordArgument record.attributes = .ok asked ∧
          resolved.Heeds asked fields := by
  unfold resolve
  constructor
  · intro h
    split at h
    · cases h
    · next hshape =>
      cases hfields : record.fields.mapM resolveField with
      | error e => simp [hfields, bind, Except.bind] at h
      | ok fields =>
          cases hgather : gather .recordAttribute recordArgument record.attributes with
          | error e => simp [hfields, hgather, bind, Except.bind] at h
          | ok asked =>
              simp only [hfields, hgather, bind, Except.bind] at h
              cases h
              refine ⟨hshape, fields, asked, rfl, rfl, by simp, ?_⟩
              cases hstyle : wordCase? asked <;> simp
  · rintro ⟨hshape, fields, asked, hfields, hgather, h⟩
    obtain ⟨decodes, renamed⟩ := resolved
    obtain ⟨hdecode, hrenamed⟩ := h
    simp only at hdecode hrenamed
    have hcontains : asked.contains .decode = decodes := by
      rw [Bool.eq_iff_iff, List.contains_iff_mem, hdecode]
    rw [if_neg hshape]
    simp only [hfields, hgather, hcontains, hrenamed, bind, Except.bind, pure, Except.pure]
    cases wordCase? asked <;> rfl

end RowBind.Declaration
