import RowBind.Column.Scalar.Convert
import RowBind.Proofs.Declaration.Resolving
import RowBind.Proofs.Naming.Ways
import RowBind.Record.Declared

/-!
# Records that are renamed as a whole

A record can be declared with a word case for the names of its fields.  Its columns and nested
fields then have their names once and for all: the one that was given, or the identifier
written in the word case.  No naming changes them any more.

This reaches as far as the declaration does.  What lies inside an embedded or nested record
was declared elsewhere, and its ways are as they are there, with nothing but the field that
holds the record in front of them.

Main statements: `ways_ofFields?`, the ways in a declared record;
`RecordDeclaration.fields_of_resolve`, what a declaration with a word case comes to; and
`canonical_names`, how columns are named along their ways, and what a word case does to them.
-/

namespace RowBind

open Declaration

variable {τ : Type} [ColumnFamily τ]

/-! ## Ways in a declared record -/

/-- The ways that begin with a field. -/
def FieldContent.ways (field : ResolvedField) (content : FieldContent τ) : List Way :=
  match field.role, content with
  | .column, .cell _ => [⟨[], field.fieldName⟩]
  | .embedded, .record inner => inner.layout.ways.map (·.through (.embedded field.fieldName))
  | .nested, .record inner => inner.layout.ways.map (·.through (.nested field.fieldName))
  | _, _ => []

/-- **The ways in a declared record** begin with its fields, and go on as they do in what the
fields hold. -/
theorem Record.ways_ofFields? {fields : List (ResolvedField × FieldContent τ)}
    {record : Record τ} (h : ofFields? fields = some record) :
    record.layout.ways = fields.flatMap fun (field, content) => content.ways field := by
  induction fields generalizing record with
  | nil =>
      cases h
      rfl
  | cons first fields ih =>
      obtain ⟨field, content⟩ := first
      obtain ⟨rest, hrest, hfirst⟩ := Option.bind_eq_some_iff.mp h
      rw [List.flatMap_cons, ← ih hrest]
      unfold withField? at hfirst
      split at hfirst
      · next hrole =>
        cases hfirst
        simp [layout, Layout.ways, FieldContent.ways, hrole]
      · next hrole =>
        cases hfirst
        simp [layout, FieldContent.ways, hrole]
      · next hrole =>
        cases hfirst
        simp [layout, Layout.ways, FieldContent.ways, hrole]
      · next hrole =>
        cases hfirst
        simp [layout, Layout.ways, FieldContent.ways, hrole]
      · cases hfirst

/-! ## What a declaration comes to -/

namespace Declaration

/-- A declaration with a word case has its fields worked out and renamed. -/
theorem RecordDeclaration.fields_of_resolve {declaration : RecordDeclaration}
    {resolved : ResolvedRecord} (h : declaration.resolve = .ok resolved)
    {arguments : List RecordArgument}
    (hgather : gather .recordAttribute recordArgument declaration.attributes = .ok arguments)
    {style : Text.WordCase} (hstyle : wordCase? arguments = some style) :
    List.Forall₂ (fun declared field => ∃ plain, resolveField declared = .ok plain ∧
      field = plain.rename style) declaration.fields resolved.fields := by
  obtain ⟨-, fields, asked, hfields, hasked, hheeds⟩ := resolve_eq_ok_iff.mp h
  obtain rfl : asked = arguments := Except.ok.inj (hasked.symm.trans hgather)
  rw [hheeds.fields_eq, hstyle]
  exact List.forall₂_map_right_iff.mpr
    ((mapM_eq_ok_iff.mp hfields).imp fun _ plain hplain => ⟨plain, hplain, rfl⟩)

end Declaration

/-! ## Word cases -/

/-- The field of a record whose names are written in a word case. -/
structure WrittenIn (style : Text.WordCase) (declared : FieldDeclaration) (field : ResolvedField) :
    Prop where
  ident_eq : field.ident = declared.ident
  /-- A column or nested field has the name that was given, or else its identifier in the word
  case. -/
  segment_eq : field.role = .column ∨ field.role = .nested →
    ∃ arguments, gather .fieldAttribute fieldArgument declared.attributes = .ok arguments ∧
      ∀ rule, field.fieldName.segment rule =
        (givenName? arguments).getD (style.apply (plainName declared.ident))
  /-- It counts as renamed. -/
  renamed : field.role = .column ∨ field.role = .nested → field.renamed = true

/-- A field that was worked out and renamed is written in the word case. -/
theorem writtenIn_rename {style : Text.WordCase} {declared : FieldDeclaration}
    {plain : ResolvedField} (h : resolveField declared = .ok plain) :
    WrittenIn style declared (plain.rename style) := by
  obtain ⟨arguments, hgather, hident, -, hname, hrenamed, -⟩ := exists_heeds_of_resolveField h
  cases hgiven : givenName? arguments with
  | some name =>
      simp only [hgiven, Option.getD_some, Option.isSome_some] at hname hrenamed
      have hsame : plain.rename style = plain := by simp [ResolvedField.rename, hrenamed]
      rw [hsame]
      refine ⟨hident, fun _ => ⟨arguments, hgather, fun rule => ?_⟩, fun _ => hrenamed⟩
      simp [FieldName.segment, ResolvedField.fieldName, hrenamed, hname, hgiven]
  | none =>
      simp only [hgiven, Option.getD_none, Option.isSome_none] at hname hrenamed
      have hwritten : plain.rename style =
          { plain with
            name := style.apply (plainName declared.ident)
            renamed := plain.role != .embedded } := by
        simp [ResolvedField.rename, hrenamed, hname]
      have hopen : plain.role = .column ∨ plain.role = .nested →
          (plain.role != .embedded) = true := by
        rintro (hrole | hrole) <;> simp [hrole]
      rw [hwritten]
      refine ⟨hident, fun hrole => ⟨arguments, hgather, fun rule => ?_⟩, hopen⟩
      simp [FieldName.segment, ResolvedField.fieldName, hopen hrole, hgiven]

/-- What is to be expected of a record that was declared with a word case. -/
structure RenamedAs (style : Text.WordCase) (declaration : RecordDeclaration)
    (resolved : ResolvedRecord) (contents : List (FieldContent τ)) (record : Record τ) : Prop where
  /-- The fields that were declared are written in the word case. -/
  fields : List.Forall₂ (WrittenIn style) declaration.fields resolved.fields
  /-- The ways behind them are those of the inner records, as they were. -/
  ways : record.layout.ways = (resolved.fields.zip contents).flatMap fun (field, content) =>
    content.ways field

/-- A declaration with a word case renames its fields and nothing else. -/
theorem renamedAs_of_resolve {declaration : RecordDeclaration} {resolved : ResolvedRecord}
    (hresolve : declaration.resolve = .ok resolved) {arguments : List RecordArgument}
    (hgather : gather .recordAttribute recordArgument declaration.attributes = .ok arguments)
    {style : Text.WordCase} (hstyle : wordCase? arguments = some style)
    {contents : List (FieldContent τ)} {record : Record τ}
    (hrecord : Record.ofFields? (resolved.fields.zip contents) = some record) :
    RenamedAs style declaration resolved contents record where
  fields := by
    refine (RecordDeclaration.fields_of_resolve hresolve hgather hstyle).imp ?_
    rintro declared _ ⟨plain, hplain, rfl⟩
    exact writtenIn_rename hplain
  ways := Record.ways_ofFields? hrecord

/-- **Canonical names.**  A naming names the columns of any type along their ways, and two of
them agree where all that contributes to a name was renamed.  That is so for the fields of a
record that was declared with a word case, and for nothing inside them. -/
theorem canonical_names (naming other : Naming) (key : TypeKey) :
    (naming.table key).1.entries =
        (key.layout.ways.zipIdx.map fun (way, slot) => way.entry naming.rule slot) ∧
      (∀ {i : Nat} {way : Way}, key.layout.ways[i]? = some way → way.Fixed →
        (naming.table key).1.entries[i]? = (other.table key).1.entries[i]?) ∧
      ∀ {declaration : RecordDeclaration} {resolved : ResolvedRecord}
        {arguments : List RecordArgument} {style : Text.WordCase}
        {contents : List (FieldContent τ)} {record : Record τ},
        declaration.resolve = .ok resolved →
          gather .recordAttribute recordArgument declaration.attributes = .ok arguments →
            wordCase? arguments = some style →
              Record.ofFields? (resolved.fields.zip contents) = some record →
                RenamedAs style declaration resolved contents record := by
  refine ⟨naming.table_entries key, fun {i way} hway hfixed => ?_, fun hresolve hgather hstyle =>
    renamedAs_of_resolve hresolve hgather hstyle⟩
  simp [Naming.table_entries, hway, Way.entry, Way.name_eq_of_fixed hfixed naming.rule other.rule]

/-- A record in camel case with a raw identifier, a name that was given and a nested record. -/
theorem canonical_names_camel :
    let declaration : RecordDeclaration :=
      ⟨"Entry", [.arguments [.identifier "rename_all", .equals, .text "camelCase"]], .named,
        [⟨"r#type_of", []⟩,
          ⟨"_seen", [.arguments [.identifier "name", .equals, .text "Seen At"]]⟩,
          ⟨"first_part", [.arguments [.identifier "nested"]]⟩]⟩
    let resolved : ResolvedRecord :=
      ⟨false, [⟨"r#type_of", "typeOf", true, .column⟩, ⟨"_seen", "Seen At", true, .column⟩,
        ⟨"first_part", "firstPart", true, .nested⟩]⟩
    let inner : Record Scalar := .column ⟨"Kept", "Kept", false⟩ ⟨.bool, true⟩ .nil
    let contents : List (FieldContent Scalar) :=
      [.cell ⟨.text, ""⟩, .cell ⟨.bool, false⟩, .record inner]
    declaration.resolve = .ok resolved ∧
      ∃ record, Record.ofFields? (resolved.fields.zip contents) = some record ∧
        RenamedAs .camel declaration resolved contents record := by
  intro declaration resolved inner contents
  have hgather : gather .recordAttribute recordArgument declaration.attributes =
      .ok [.renameAll .camel] := by
    simp [declaration, gather, readArguments, readArgument, readPath, readParts, recordArgument,
      wordCaseOf, Path.isIdentifier, bind, Except.bind, pure, Except.pure, Except.map]
  have hraw : resolveField ⟨"r#type_of", []⟩ =
      .ok ⟨"r#type_of", "type_of", false, .column⟩ := rfl
  have hgiven : resolveField ⟨"_seen",
      [.arguments [.identifier "name", .equals, .text "Seen At"]]⟩ =
      .ok ⟨"_seen", "Seen At", true, .column⟩ := by
    simp [resolveField, gather, readArguments, readArgument, readPath, readParts, fieldArgument,
      Path.isIdentifier, bind, Except.bind, pure, Except.pure, roleOf, givenName?]
  have hnested : resolveField ⟨"first_part", [.arguments [.identifier "nested"]]⟩ =
      .ok ⟨"first_part", "first_part", false, .nested⟩ := by
    simp [resolveField, gather, readArguments, readArgument, readPath, readParts, fieldArgument,
      Path.isIdentifier, bind, Except.bind, pure, Except.pure, roleOf, givenName?, plainName]
  have hfields : declaration.fields.mapM resolveField =
      .ok [⟨"r#type_of", "type_of", false, .column⟩, ⟨"_seen", "Seen At", true, .column⟩,
        ⟨"first_part", "first_part", false, .nested⟩] :=
    mapM_eq_ok_iff.mpr (.cons hraw (.cons hgiven (.cons hnested .nil)))
  have hresolve : declaration.resolve = .ok resolved := by
    simp only [RecordDeclaration.resolve, hfields, hgather]
    rfl
  exact ⟨hresolve, _, rfl,
    (canonical_names .asWritten .lowercase ⟨"Entry", .nil⟩).2.2 hresolve hgather rfl rfl⟩

end RowBind
