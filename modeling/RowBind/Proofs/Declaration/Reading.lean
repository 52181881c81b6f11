import Mathlib.Data.List.Forall2
import RowBind.Declaration.Written

/-!
# Reading attributes

The arguments of an attribute are read one after the other, and what is read as a whole is what
is written: the tokens are read to their end exactly if they are a list of arguments.  If they
are none, they are read as far as they are one.

A field and a record know an argument exactly if it has one of their forms.  So where every
attribute is a list of arguments, all that they ask for is gathered in the order in which it is
written, and everything else is an error.

Main statements: `readArguments_eq_iff`, what is read to its end is what is written;
`exists_beginning`, what is read at all is a beginning; and `written_iff`, what is gathered is
what is written in the attributes.
-/

namespace RowBind.Declaration

variable {α : Type}

/-! ## One argument -/

/-- The tokens of the parts behind the first. -/
abbrev partTokens (parts : List String) : List Token :=
  parts.flatMap fun part => [.separator, .identifier part]

theorem readParts_append {parts : List String} {rest : List Token}
    (hrest : rest.head? ≠ some .separator) :
    readParts (partTokens parts ++ rest) = some (parts, rest) := by
  induction parts with
  | nil =>
      cases rest with
      | nil => rfl
      | cons token rest =>
          cases token with
          | separator => exact absurd rfl hrest
          | _ => rfl
  | cons part parts ih =>
      simp only [partTokens, List.flatMap_cons, List.cons_append, List.nil_append] at ih ⊢
      rw [readParts, ih]
      rfl

theorem eq_append_of_readParts {tokens rest : List Token} {parts : List String}
    (h : readParts tokens = some (parts, rest)) : tokens = partTokens parts ++ rest := by
  fun_induction readParts tokens generalizing parts rest with
  | case1 name tail ih =>
      obtain ⟨⟨others, rest'⟩, hothers, heq⟩ := Option.map_eq_some_iff.mp h
      cases heq
      rw [ih hothers]
      rfl
  | case2 => cases h
  | case3 => cases h; rfl

theorem readPath_append {path : Path} {rest : List Token} (hparts : path.parts ≠ [])
    (hrest : rest.head? ≠ some .separator) :
    readPath (path.tokens ++ rest) = some (path, rest) := by
  obtain ⟨rooted, parts⟩ := path
  cases parts with
  | nil => exact absurd rfl hparts
  | cons first others =>
      cases rooted <;> simp [Path.tokens, readPath, readParts_append hrest]

theorem eq_append_of_readPath {tokens rest : List Token} {path : Path}
    (h : readPath tokens = some (path, rest)) :
    path.parts ≠ [] ∧ tokens = path.tokens ++ rest := by
  obtain ⟨first, others, tail, hparts, hothers, rfl⟩ := exists_parts_of_readPath h
  refine ⟨by simp [hparts], ?_⟩
  rw [eq_append_of_readParts hothers, Path.tokens, hparts]
  simp

/-- An argument can end here: the list ends with it, or goes on behind a comma. -/
inductive Ends : List Token → Prop
  | nil : Ends []
  | comma (others : List Token) : Ends (.comma :: others)

/-- An argument that is written is read. -/
theorem readArgument_append {tokens rest : List Token} {argument : Argument}
    (h : Spells tokens argument) (hrest : Ends rest) :
    readArgument (tokens ++ rest) = some (argument, rest) := by
  obtain ⟨path, value⟩ := argument
  obtain ⟨hparts, rfl⟩ := h
  have hhead : (value.tokens ++ rest).head? ≠ some .separator := by
    cases hrest <;> cases value <;> simp [ArgumentValue.tokens]
  rw [readArgument, List.append_assoc, readPath_append hparts hhead]
  cases hrest <;> cases value <;> rfl

/-- An argument that is read has its value right behind its path. -/
theorem readPath_of_readArgument {tokens rest : List Token} {argument : Argument}
    (h : readArgument tokens = some (argument, rest)) :
    readPath tokens = some (argument.path, argument.value.tokens ++ rest) := by
  unfold readArgument at h
  split at h
  · cases h
  · next hpath => cases h; exact hpath
  · next hpath => cases h; exact hpath
  · next hpath => cases h; exact hpath

/-- An argument that is read is written there. -/
theorem exists_spells_of_readArgument {tokens rest : List Token} {argument : Argument}
    (h : readArgument tokens = some (argument, rest)) :
    ∃ front, Spells front argument ∧ tokens = front ++ rest := by
  obtain ⟨hparts, heq⟩ := eq_append_of_readPath (readPath_of_readArgument h)
  exact ⟨_, ⟨hparts, rfl⟩, by rw [heq, List.append_assoc]⟩

/-! ## Lists of arguments -/

theorem readArguments_of_last {tokens : List Token} {argument : Argument}
    (h : readArgument tokens = some (argument, [])) :
    readArguments tokens = ⟨[argument], true⟩ := by
  fun_cases readArguments tokens with
  | case1 hempty =>
      obtain rfl := List.isEmpty_iff.mp hempty
      cases h
  | _ => simp_all

theorem readArguments_of_comma {tokens rest : List Token} {argument : Argument}
    (h : readArgument tokens = some (argument, .comma :: rest)) :
    readArguments tokens =
      ⟨argument :: (readArguments rest).arguments, (readArguments rest).complete⟩ := by
  fun_cases readArguments tokens with
  | case1 hempty =>
      obtain rfl := List.isEmpty_iff.mp hempty
      cases h
  | case4 _ _ _ hread =>
      rw [h] at hread
      cases hread
      rfl
  | _ => simp_all

/-- **What is read to its end is what is written.** -/
theorem readArguments_eq_iff {tokens : List Token} {arguments : List Argument} :
    readArguments tokens = ⟨arguments, true⟩ ↔ Listed Spells tokens arguments := by
  constructor
  · intro h
    fun_induction readArguments tokens generalizing arguments with
    | case1 tokens hempty =>
        cases h
        obtain rfl := List.isEmpty_iff.mp hempty
        exact .nil
    | case2 => cases h
    | case3 tokens _ argument hread =>
        cases h
        obtain ⟨front, hfront, rfl⟩ := exists_spells_of_readArgument hread
        rw [List.append_nil]
        exact .last hfront
    | case4 tokens _ argument rest hread =>
        rename_i ih
        obtain ⟨front, hfront, rfl⟩ := exists_spells_of_readArgument hread
        simp only [ArgumentList.mk.injEq] at h
        obtain ⟨rfl, hcomplete⟩ := h
        exact .cons hfront (ih (by rw [← hcomplete]))
    | case5 => cases h
  · intro h
    induction h with
    | nil => exact readArguments_complete_nil
    | last h =>
        have hread := readArgument_append h .nil
        rw [List.append_nil] at hread
        exact readArguments_of_last hread
    | @cons tokens rest argument arguments h _ ih =>
        rw [readArguments_of_comma (readArgument_append h (.comma rest)), ih]

/-- **What is read at all is a beginning** of the tokens that is a list of arguments. -/
theorem exists_beginning (tokens : List Token) :
    ∃ front, front <+: tokens ∧ Listed Spells front (readArguments tokens).arguments := by
  fun_induction readArguments tokens with
  | case1 tokens hempty => exact ⟨[], List.nil_prefix, .nil⟩
  | case2 => exact ⟨[], List.nil_prefix, .nil⟩
  | case3 tokens _ argument hread =>
      obtain ⟨front, hfront, rfl⟩ := exists_spells_of_readArgument hread
      exact ⟨front, List.prefix_append _ _, .last hfront⟩
  | case4 tokens _ argument rest hread =>
      rename_i ih
      obtain ⟨front, hfront, rfl⟩ := exists_spells_of_readArgument hread
      obtain ⟨beginning, hprefix, hlisted⟩ := ih
      refine ⟨front ++ .comma :: beginning, ?_, .cons hfront hlisted⟩
      rw [List.prefix_append_right_inj, List.cons_prefix_cons]
      exact ⟨rfl, hprefix⟩
  | case5 tokens _ argument rest _ _ hread =>
      obtain ⟨front, hfront, rfl⟩ := exists_spells_of_readArgument hread
      exact ⟨front, List.prefix_append _ _, .last hfront⟩

/-! ## Known arguments -/

/-- What has the form is what is understood of an argument. -/
def Understands (form : List Token → α → Prop)
    (interpret : Argument → Except DeclarationError α) : Prop :=
  ∀ {tokens : List Token} {item : α},
    form tokens item ↔ ∃ argument, Spells tokens argument ∧ interpret argument = .ok item

theorem Path.isIdentifier_iff {path : Path} {name : String} :
    path.isIdentifier name = true ↔ path = ⟨false, [name]⟩ := by
  obtain ⟨rooted, parts⟩ := path
  simp [isIdentifier]

/-- A role is asked for by an identifier without a value. -/
theorem eq_role_of_ite {argument : Argument} {name text : String} {role : Role}
    {item : FieldArgument} (hpath : argument.path.isIdentifier name = true)
    (h : (if argument.value = .none then .ok (.role role text) else .error (.valueGiven text) :
      Except DeclarationError FieldArgument) = .ok item) :
    argument = ⟨⟨false, [name]⟩, .none⟩ ∧ item = .role role text := by
  obtain ⟨path, value⟩ := argument
  obtain rfl := Path.isIdentifier_iff.mp hpath
  split at h
  · next hvalue =>
    cases h
    exact ⟨by rw [← hvalue], rfl⟩
  · cases h

/-- What a field understands has one of its forms. -/
theorem fieldForm_of_fieldArgument {argument : Argument} {item : FieldArgument} :
    fieldArgument argument = .ok item →
      FieldForm (argument.path.tokens ++ argument.value.tokens) item := by
  fun_cases fieldArgument argument with
  | case1 hpath content hvalue =>
      intro h
      cases h
      rw [Path.isIdentifier_iff.mp hpath, hvalue]
      exact .name content
  | case2 | case6 =>
      intro h
      cases h
  | case3 _ _ hpath =>
      intro h
      obtain ⟨rfl, rfl⟩ := eq_role_of_ite hpath h
      exact .embed
  | case4 _ _ _ hpath =>
      intro h
      obtain ⟨rfl, rfl⟩ := eq_role_of_ite hpath h
      exact .nested
  | case5 _ _ _ _ hpath =>
      intro h
      obtain ⟨rfl, rfl⟩ := eq_role_of_ite hpath h
      exact .ignore

/-- What a record understands has one of its forms. -/
theorem recordForm_of_recordArgument {argument : Argument} {item : RecordArgument} :
    recordArgument argument = .ok item →
      RecordForm (argument.path.tokens ++ argument.value.tokens) item := by
  fun_cases recordArgument argument with
  | case1 hpath hvalue =>
      intro h
      cases h
      rw [Path.isIdentifier_iff.mp hpath, hvalue]
      exact .decode
  | case3 _ hpath content hvalue =>
      intro h
      rw [Path.isIdentifier_iff.mp hpath, hvalue]
      cases hstyle : wordCaseOf content with
      | error e => simp [hstyle, Except.map] at h
      | ok style =>
          rw [hstyle] at h
          cases h
          exact .renameAll hstyle
  | case2 | case4 | case5 =>
      intro h
      cases h

/-- A field understands the arguments that have one of its forms. -/
theorem understands_field : Understands FieldForm fieldArgument := by
  intro tokens item
  constructor
  · intro h
    cases h with
    | name content => exact ⟨⟨⟨false, ["name"]⟩, .text content⟩, ⟨nofun, rfl⟩, rfl⟩
    | embed => exact ⟨⟨⟨false, ["embed"]⟩, .none⟩, ⟨nofun, rfl⟩, rfl⟩
    | nested => exact ⟨⟨⟨false, ["nested"]⟩, .none⟩, ⟨nofun, rfl⟩, rfl⟩
    | ignore => exact ⟨⟨⟨false, ["ignore"]⟩, .none⟩, ⟨nofun, rfl⟩, rfl⟩
  · rintro ⟨argument, ⟨-, rfl⟩, h⟩
    exact fieldForm_of_fieldArgument h

/-- A record understands the arguments that have one of its forms. -/
theorem understands_record : Understands RecordForm recordArgument := by
  intro tokens item
  constructor
  · intro h
    cases h with
    | decode => exact ⟨⟨⟨false, ["decode"]⟩, .none⟩, ⟨nofun, rfl⟩, rfl⟩
    | @renameAll name style hstyle =>
        refine ⟨⟨⟨false, ["rename_all"]⟩, .text name⟩, ⟨nofun, rfl⟩, ?_⟩
        simp [recordArgument, Path.isIdentifier, hstyle, Except.map]
  · rintro ⟨argument, ⟨-, rfl⟩, h⟩
    exact recordForm_of_recordArgument h

/-! ## Gathering -/

/-- A list is gone through successfully exactly if every element is. -/
theorem mapM_eq_ok_iff {ε α β : Type} {f : α → Except ε β} {list : List α} {results : List β} :
    list.mapM f = .ok results ↔ List.Forall₂ (fun a b => f a = .ok b) list results := by
  induction list generalizing results with
  | nil => simp [pure, Except.pure, eq_comm]
  | cons first list ih =>
      rw [List.mapM_cons]
      constructor
      · intro h
        cases hfirst : f first with
        | error e => simp [hfirst, bind, Except.bind] at h
        | ok result =>
            cases hrest : list.mapM f with
            | error e => simp [hfirst, hrest, bind, Except.bind] at h
            | ok others =>
                simp only [hfirst, hrest, bind, Except.bind, pure, Except.pure,
                  Except.ok.injEq] at h
                subst h
                exact .cons hfirst (ih.mp hrest)
      · intro h
        cases h with
        | cons hfirst hrest =>
            simp [hfirst, ih.mpr hrest, bind, Except.bind, pure, Except.pure]

section

variable {form : List Token → α → Prop} {interpret : Argument → Except DeclarationError α}
  {malformed : DeclarationError} {attributes : List Attribute} {asked : List α}

/-- A list of known arguments is a list of arguments all of which are known. -/
theorem listed_iff (hform : Understands form interpret) {tokens : List Token} {items : List α} :
    Listed form tokens items ↔
      ∃ arguments, Listed Spells tokens arguments ∧ arguments.mapM interpret = .ok items := by
  simp only [mapM_eq_ok_iff]
  constructor
  · intro h
    induction h with
    | nil => exact ⟨[], .nil, .nil⟩
    | last h =>
        obtain ⟨argument, hspells, hitem⟩ := hform.mp h
        exact ⟨[argument], .last hspells, .cons hitem .nil⟩
    | cons h _ ih =>
        obtain ⟨argument, hspells, hitem⟩ := hform.mp h
        obtain ⟨arguments, hlisted, hitems⟩ := ih
        exact ⟨argument :: arguments, .cons hspells hlisted, .cons hitem hitems⟩
  · rintro ⟨arguments, hlisted, hitems⟩
    induction hlisted generalizing items with
    | nil =>
        cases hitems
        exact .nil
    | last hspells =>
        cases hitems with
        | cons hitem hnone =>
            cases hnone
            exact .last (hform.mpr ⟨_, hspells, hitem⟩)
    | cons hspells _ ih =>
        cases hitems with
        | cons hitem hrest => exact .cons (hform.mpr ⟨_, hspells, hitem⟩) (ih hrest)

theorem gather_foreign_eq_ok_iff :
    gather malformed interpret (.foreign :: attributes) = .ok asked ↔
      gather malformed interpret attributes = .ok asked := by
  rw [gather]
  cases gather malformed interpret attributes <;> simp [bind, Except.bind, pure, Except.pure]

theorem gather_arguments_eq_ok_iff {tokens : List Token} :
    gather malformed interpret (.arguments tokens :: attributes) = .ok asked ↔
      ∃ items others, (readArguments tokens).arguments.mapM interpret = .ok items ∧
        gather malformed interpret attributes = .ok others ∧ items ++ others = asked := by
  rw [gather]
  cases (readArguments tokens).arguments.mapM interpret <;>
    cases gather malformed interpret attributes <;>
    simp [bind, Except.bind, pure, Except.pure]

/-- **What is gathered is what is written**, where the tokens of every attribute are a list of
arguments. -/
theorem written_iff (hform : Understands form interpret) :
    Written form attributes asked ↔ gather malformed interpret attributes = .ok asked ∧
      ∀ tokens, .arguments tokens ∈ attributes → ∃ arguments, Listed Spells tokens arguments := by
  induction attributes generalizing asked with
  | nil =>
      constructor
      · intro h
        cases h
        exact ⟨rfl, nofun⟩
      · rintro ⟨h, -⟩
        cases h
        exact .nil
  | cons first attributes ih =>
      have hbehind {tokens : List Token} (hmem : .arguments tokens ∈ attributes) :
          .arguments tokens ∈ first :: attributes := List.mem_cons_of_mem first hmem
      cases first with
      | foreign =>
          rw [gather_foreign_eq_ok_iff]
          constructor
          · intro h
            cases h with
            | foreign h =>
                obtain ⟨hgather, hlists⟩ := ih.mp h
                exact ⟨hgather, fun tokens hmem => hlists tokens (by simpa using hmem)⟩
          · rintro ⟨hgather, hlists⟩
            exact .foreign (ih.mpr ⟨hgather, fun tokens hmem => hlists tokens (hbehind hmem)⟩)
      | alone => exact iff_of_false nofun fun h => nomatch h.1
      | assigned => exact iff_of_false nofun fun h => nomatch h.1
      | arguments tokens =>
          rw [gather_arguments_eq_ok_iff]
          constructor
          · intro h
            cases h with
            | arguments hitems h =>
                obtain ⟨hgather, hlists⟩ := ih.mp h
                obtain ⟨arguments, hlisted, hmap⟩ := (listed_iff hform).mp hitems
                rw [← readArguments_eq_iff] at hlisted
                refine ⟨⟨_, _, by rw [hlisted]; exact hmap, hgather, rfl⟩, ?_⟩
                intro others hmem
                rcases List.mem_cons.mp hmem with heq | hmem
                · cases heq
                  exact ⟨arguments, readArguments_eq_iff.mp hlisted⟩
                · exact hlists others hmem
          · rintro ⟨⟨items, others, hitems, hothers, rfl⟩, hlists⟩
            obtain ⟨arguments, hlisted⟩ := hlists tokens List.mem_cons_self
            rw [readArguments_eq_iff.mpr hlisted] at hitems
            exact .arguments ((listed_iff hform).mpr ⟨arguments, hlisted, hitems⟩)
              (ih.mpr ⟨hothers, fun tokens hmem => hlists tokens (hbehind hmem)⟩)

end

end RowBind.Declaration
