import RowBind.Proofs.Declaration.Resolving

/-!
# Arguments that are dropped

All that stands in the attributes of a declaration should take effect, or the declaration should
be refused.  It is refused for an argument that is not known, for a value that is missing or out
of place, and for an attribute without a list.  It is not refused where a list stops being one: a
comma that is missing, or something that is no argument, ends the list, and whatever stands
behind it is dropped.

That is the only way in which anything is dropped.  Then the declaration is what it would be if
the lists were cut off so that none of them breaks.

Main statement: `nothingDropped_iff`, when everything takes effect, and what does if not.
-/

namespace RowBind.Declaration

/-! ## Everything takes effect -/

/-- The field is all that its attributes ask for, and they ask for all that is written there. -/
def ResolvedField.HeedsAll (field : ResolvedField) (declared : FieldDeclaration) : Prop :=
  ∃ asked, Written FieldForm declared.attributes asked ∧ field.Heeds declared.ident asked

/-- The record is all that its attributes ask for, with fields that are all that theirs ask for. -/
def ResolvedRecord.HeedsAll (record : ResolvedRecord) (declared : RecordDeclaration) : Prop :=
  ∃ asked fields, Written RecordForm declared.attributes asked ∧ record.Heeds asked fields ∧
    List.Forall₂ (fun declared field => ResolvedField.HeedsAll field declared)
      declared.fields fields

/-- If the field comes to anything, nothing that is written in its attributes is dropped. -/
def FieldDeclaration.NothingDropped (declared : FieldDeclaration) : Prop :=
  ∀ field, resolveField declared = .ok field → field.HeedsAll declared

/-- If the record comes to anything, nothing that is written in its attributes and in those of its
fields is dropped. -/
def RecordDeclaration.NothingDropped (declared : RecordDeclaration) : Prop :=
  ∀ record, declared.resolve = .ok record → record.HeedsAll declared

/-- An attribute of the record or of one of its fields has a list that breaks off. -/
def RecordDeclaration.BrokenOff (declared : RecordDeclaration) : Prop :=
  Declaration.BrokenOff declared.attributes ∨
    ∃ field ∈ declared.fields, Declaration.BrokenOff field.attributes

/-- The second field is the first one with its lists cut off. -/
structure FieldDeclaration.CutTo (declared kept : FieldDeclaration) : Prop where
  ident_eq : kept.ident = declared.ident
  attributes : List.Forall₂ Attribute.CutTo declared.attributes kept.attributes

/-- The second record is the first one with its lists and those of its fields cut off. -/
structure RecordDeclaration.CutTo (declared kept : RecordDeclaration) : Prop where
  name_eq : kept.name = declared.name
  shape_eq : kept.shape = declared.shape
  attributes : List.Forall₂ Attribute.CutTo declared.attributes kept.attributes
  fields : List.Forall₂ FieldDeclaration.CutTo declared.fields kept.fields

/-! ## Nothing else is dropped -/

section

variable {α : Type} {form : List Token → α → Prop}
  {interpret : Argument → Except DeclarationError α} {malformed : DeclarationError}
  {attributes : List Attribute} {asked : List α}

theorem not_brokenOff_iff : ¬ BrokenOff attributes ↔
    ∀ tokens, .arguments tokens ∈ attributes → ∃ arguments, Listed Spells tokens arguments := by
  simp [BrokenOff]

/-- What is gathered is what is written, unless a list breaks off. -/
theorem written_iff_of_gather (hform : Understands form interpret)
    (hgather : gather malformed interpret attributes = .ok asked) :
    Written form attributes asked ↔ ¬ BrokenOff attributes := by
  rw [not_brokenOff_iff]
  exact (written_iff hform).trans (and_iff_right hgather)

/-- Attributes that are written as they are meant to be do not break off. -/
theorem not_brokenOff_of_written (hform : Understands form interpret)
    (h : Written form attributes asked) : ¬ BrokenOff attributes := by
  have hgather : gather .fieldAttribute interpret attributes = .ok asked ∧ _ :=
    (written_iff hform).mp h
  exact not_brokenOff_iff.mpr hgather.2

end

theorem not_brokenOff_of_heedsAll {declared : FieldDeclaration} {field : ResolvedField}
    (h : field.HeedsAll declared) : ¬ BrokenOff declared.attributes := by
  obtain ⟨asked, hwritten, -⟩ := h
  exact not_brokenOff_of_written understands_field hwritten

/-- A field is all that is written, unless a list breaks off. -/
theorem heedsAll_iff {declared : FieldDeclaration} {field : ResolvedField}
    (h : resolveField declared = .ok field) :
    field.HeedsAll declared ↔ ¬ BrokenOff declared.attributes := by
  refine ⟨not_brokenOff_of_heedsAll, fun hwhole => ?_⟩
  obtain ⟨asked, hgather, hheeds⟩ := exists_heeds_of_resolveField h
  exact ⟨asked, (written_iff_of_gather understands_field hgather).mpr hwhole, hheeds⟩

/-- So are the fields of a record. -/
theorem forall₂_heedsAll_iff {declared : List FieldDeclaration} {fields : List ResolvedField}
    (h : declared.mapM resolveField = .ok fields) :
    List.Forall₂ (fun declared field => field.HeedsAll declared) declared fields ↔
      ∀ field ∈ declared, ¬ BrokenOff field.attributes := by
  induction mapM_eq_ok_iff.mp h with
  | nil => simp
  | cons hfirst hrest ih =>
      rw [List.forall₂_cons, List.forall_mem_cons, heedsAll_iff hfirst,
        ih (mapM_eq_ok_iff.mpr hrest)]

theorem RecordDeclaration.not_brokenOff_iff {declared : RecordDeclaration} :
    ¬ declared.BrokenOff ↔ ¬ Declaration.BrokenOff declared.attributes ∧
      ∀ field ∈ declared.fields, ¬ Declaration.BrokenOff field.attributes := by
  simp [BrokenOff]

/-- A record is all that is written, unless a list breaks off. -/
theorem RecordDeclaration.heedsAll_iff {declared : RecordDeclaration} {record : ResolvedRecord}
    (h : declared.resolve = .ok record) : record.HeedsAll declared ↔ ¬ declared.BrokenOff := by
  rw [not_brokenOff_iff]
  constructor
  · rintro ⟨asked, fields, hwritten, -, hfields⟩
    have hwhole := hfields.imp fun declared field h => And.intro (not_brokenOff_of_heedsAll h) h
    exact ⟨not_brokenOff_of_written understands_record hwritten,
      ((List.forall₂_and_left _ _).mp hwhole).1⟩
  · rintro ⟨hwhole, hwholes⟩
    obtain ⟨-, fields, asked, hfields, hgather, hheeds⟩ := resolve_eq_ok_iff.mp h
    exact ⟨asked, fields, (written_iff_of_gather understands_record hgather).mpr hwhole, hheeds,
      (forall₂_heedsAll_iff hfields).mpr hwholes⟩

/-- If a result is as it should be exactly if the whole is, then every result is so exactly if there
is none, or the whole is. -/
theorem forall_ok_iff {α : Type} {outcome : Except DeclarationError α} {heeds : α → Prop}
    {whole : Prop} (h : ∀ {result}, outcome = .ok result → (heeds result ↔ whole)) :
    (∀ result, outcome = .ok result → heeds result) ↔
      (∀ result, outcome ≠ .ok result) ∨ whole := by
  constructor
  · intro hall
    by_cases hnone : ∀ result, outcome ≠ .ok result
    · exact .inl hnone
    · obtain ⟨result, hresult⟩ := not_forall_not.mp hnone
      exact .inr ((h hresult).mp (hall result hresult))
  · intro hor result hresult
    obtain hnone | hwhole := hor
    · exact absurd hresult (hnone result)
    · exact (h hresult).mpr hwhole

/-! ## Lists that are cut off -/

/-- Attributes can be cut off so that the same is gathered from them and no list breaks off. -/
theorem exists_cutTo_attributes (attributes : List Attribute) :
    ∃ kept, List.Forall₂ Attribute.CutTo attributes kept ∧ ¬ BrokenOff kept ∧
      ∀ {α : Type} (malformed : DeclarationError)
        (interpret : Argument → Except DeclarationError α),
        gather malformed interpret kept = gather malformed interpret attributes := by
  simp only [not_brokenOff_iff]
  induction attributes with
  | nil => exact ⟨[], .nil, nofun, fun _ _ => rfl⟩
  | cons first attributes ih =>
      obtain ⟨kept, hcut, hwhole, hsame⟩ := ih
      cases first with
      | arguments tokens =>
          obtain ⟨front, hprefix, hlisted⟩ := exists_beginning tokens
          refine ⟨.arguments front :: kept, .cons (.front hprefix) hcut, ?_, ?_⟩
          · intro others hmem
            rcases List.mem_cons.mp hmem with heq | hmem
            · cases heq
              exact ⟨_, hlisted⟩
            · exact hwhole others hmem
          · intro α malformed interpret
            simp only [gather, readArguments_eq_iff.mpr hlisted, hsame]
      | foreign | alone | assigned =>
          refine ⟨_ :: kept, .cons (.same _) hcut, ?_, ?_⟩
          · intro tokens hmem
            exact hwhole tokens (by simpa using hmem)
          · intro α malformed interpret
            simp only [gather, hsame]

/-- A field can be cut off so that it comes to the same and no list breaks off. -/
theorem FieldDeclaration.exists_cutTo (declared : FieldDeclaration) :
    ∃ kept, declared.CutTo kept ∧ ¬ Declaration.BrokenOff kept.attributes ∧
      resolveField kept = resolveField declared := by
  obtain ⟨attributes, hcut, hwhole, hsame⟩ := exists_cutTo_attributes declared.attributes
  refine ⟨⟨declared.ident, attributes⟩, ⟨rfl, hcut⟩, hwhole, ?_⟩
  simp only [resolveField, hsame]

/-- So can all the fields of a record. -/
theorem exists_cutTo_fields (fields : List FieldDeclaration) :
    ∃ kept, List.Forall₂ FieldDeclaration.CutTo fields kept ∧
      (∀ field ∈ kept, ¬ BrokenOff field.attributes) ∧
        kept.mapM resolveField = fields.mapM resolveField := by
  induction fields with
  | nil => exact ⟨[], .nil, nofun, rfl⟩
  | cons first fields ih =>
      obtain ⟨others, hothers, hwholes, hrest⟩ := ih
      obtain ⟨kept, hcut, hwhole, hfirst⟩ := first.exists_cutTo
      refine ⟨kept :: others, .cons hcut hothers, ?_, ?_⟩
      · exact List.forall_mem_cons.mpr ⟨hwhole, hwholes⟩
      · rw [List.mapM_cons, List.mapM_cons, hfirst, hrest]

/-- So can a record. -/
theorem RecordDeclaration.exists_cutTo (declared : RecordDeclaration) :
    ∃ kept, declared.CutTo kept ∧ ¬ kept.BrokenOff ∧ kept.resolve = declared.resolve := by
  obtain ⟨attributes, hcut, hwhole, hsame⟩ := exists_cutTo_attributes declared.attributes
  obtain ⟨fields, hcuts, hwholes, hfields⟩ := exists_cutTo_fields declared.fields
  refine ⟨⟨declared.name, attributes, declared.shape, fields⟩, ⟨rfl, rfl, hcut, hcuts⟩,
    not_brokenOff_iff.mpr ⟨hwhole, hwholes⟩, ?_⟩
  simp only [resolve, hsame, hfields]

/-! ## All that is dropped -/

/-- **Nothing is dropped** exactly if the declaration is refused, or no list of its attributes
breaks off.  Whatever a declaration comes to, it would come to the same with its lists cut off so
that none of them breaks. -/
theorem nothingDropped_iff (field : FieldDeclaration) (record : RecordDeclaration) :
    (field.NothingDropped ↔
        (∀ resolved, resolveField field ≠ .ok resolved) ∨ ¬ BrokenOff field.attributes) ∧
      (∃ kept, field.CutTo kept ∧ ¬ BrokenOff kept.attributes ∧
        resolveField kept = resolveField field) ∧
      (record.NothingDropped ↔
        (∀ resolved, record.resolve ≠ .ok resolved) ∨ ¬ record.BrokenOff) ∧
      ∃ kept, record.CutTo kept ∧ ¬ kept.BrokenOff ∧ kept.resolve = record.resolve :=
  ⟨forall_ok_iff heedsAll_iff, field.exists_cutTo, forall_ok_iff RecordDeclaration.heedsAll_iff,
    record.exists_cutTo⟩

/-- A missing comma drops the role that stands behind it. -/
theorem not_nothingDropped_missing_comma :
    let declared : FieldDeclaration := ⟨"some_field",
      [.arguments [.identifier "name", .equals, .text "kept", .identifier "embed"]]⟩
    resolveField declared = .ok ⟨"some_field", "kept", true, .column⟩ ∧
      ¬ declared.NothingDropped := by
  intro declared
  have hread : readArguments [.identifier "name", .equals, .text "kept", .identifier "embed"] =
      ⟨[⟨⟨false, ["name"]⟩, .text "kept"⟩], false⟩ := by
    simp [readArguments, readArgument, readPath, readParts]
  have hresolve : resolveField declared = .ok ⟨"some_field", "kept", true, .column⟩ := by
    simp only [declared, resolveField, gather, hread]
    rfl
  refine ⟨hresolve, fun h => ?_⟩
  have hwhole : ¬ BrokenOff declared.attributes := not_brokenOff_of_heedsAll (h _ hresolve)
  obtain ⟨arguments, hlisted⟩ := not_brokenOff_iff.mp hwhole _ List.mem_cons_self
  rw [← readArguments_eq_iff, hread] at hlisted
  cases hlisted

end RowBind.Declaration
