/-!
# Arguments of attributes

An attribute of a declaration holds a sequence of tokens, which is read as a list of
arguments with commas between them.  An argument is a path, which may be followed by an
equals sign and a value.  Reading ends where the tokens are no such list: the arguments
read until then count, and nothing tells that the rest was dropped.

Main statements: `readArgument_shorter`, an argument takes at least one token, and
`readArguments_complete_nil`, the empty list is read to its end.
-/

namespace RowBind.Declaration

/-- A token between the parentheses of an attribute. -/
inductive Token where
  | identifier (name : String)
  /-- The sign between the parts of a path. -/
  | separator
  | equals
  | text (content : String)
  | number (content : String)
  /-- Tokens in parentheses of their own. -/
  | group (content : String)
  | comma
  | other (content : String)
deriving DecidableEq, Repr

/-- A path: its parts, and whether a separator stands in front of the first. -/
structure Path where
  rooted : Bool
  parts : List String
deriving DecidableEq, Repr

namespace Path

/-- The path is the given single identifier. -/
def isIdentifier (path : Path) (name : String) : Bool :=
  !path.rooted && path.parts == [name]

/-- The path with spaces around its separators. -/
def shown (path : Path) : String :=
  (if path.rooted then ":: " else "") ++ " :: ".intercalate path.parts

end Path

/-- What follows the path of an argument. -/
inductive ArgumentValue where
  /-- No equals sign. -/
  | none
  /-- An equals sign and a text. -/
  | text (content : String)
  /-- An equals sign and something else. -/
  | other
deriving DecidableEq, Repr

/-- One argument of an attribute. -/
structure Argument where
  path : Path
  value : ArgumentValue
deriving DecidableEq, Repr

/-- Reads the parts of a path behind its first one. -/
def readParts : List Token → Option (List String × List Token)
  | .separator :: .identifier name :: rest =>
    (readParts rest).map fun (parts, rest) => (name :: parts, rest)
  | .separator :: _ => none
  | rest => some ([], rest)

/-- Reads a path. -/
def readPath (tokens : List Token) : Option (Path × List Token) :=
  match tokens with
  | .separator :: .identifier name :: rest =>
    (readParts rest).map fun (parts, rest) => (⟨true, name :: parts⟩, rest)
  | .identifier name :: rest =>
    (readParts rest).map fun (parts, rest) => (⟨false, name :: parts⟩, rest)
  | _ => none

/-- Reads an argument.  A value that is not a text stays unread. -/
def readArgument (tokens : List Token) : Option (Argument × List Token) :=
  match readPath tokens with
  | none => none
  | some (path, .equals :: .text content :: rest) => some (⟨path, .text content⟩, rest)
  | some (path, .equals :: rest) => some (⟨path, .other⟩, rest)
  | some (path, rest) => some (⟨path, .none⟩, rest)

/-- The arguments of an attribute, and whether they were read to the end. -/
structure ArgumentList where
  arguments : List Argument
  complete : Bool
deriving DecidableEq, Repr

theorem readParts_shorter {tokens rest : List Token} {parts : List String}
    (h : readParts tokens = some (parts, rest)) : rest.length ≤ tokens.length := by
  fun_induction readParts tokens generalizing parts rest with
  | case1 name tail ih =>
    obtain ⟨⟨parts', rest'⟩, hr, he⟩ := Option.map_eq_some_iff.1 h
    cases he
    have := ih hr
    simp only [List.length_cons]
    omega
  | case2 => cases h
  | case3 => cases h; exact Nat.le_refl _

/-- A path that is read has a first part, behind a separator if it is rooted, and its others
are read behind that. -/
theorem exists_parts_of_readPath {tokens rest : List Token} {path : Path}
    (h : readPath tokens = some (path, rest)) :
    ∃ first others tail, path.parts = first :: others ∧ readParts tail = some (others, rest) ∧
      tokens = (if path.rooted then [.separator] else []) ++ .identifier first :: tail := by
  unfold readPath at h
  split at h
  · next first tail =>
    obtain ⟨⟨others, _⟩, hothers, heq⟩ := Option.map_eq_some_iff.1 h
    cases heq
    exact ⟨first, others, tail, rfl, hothers, rfl⟩
  · next first tail =>
    obtain ⟨⟨others, _⟩, hothers, heq⟩ := Option.map_eq_some_iff.1 h
    cases heq
    exact ⟨first, others, tail, rfl, hothers, rfl⟩
  · cases h

theorem readPath_shorter {tokens rest : List Token} {path : Path}
    (h : readPath tokens = some (path, rest)) : rest.length < tokens.length := by
  obtain ⟨first, others, tail, -, hothers, rfl⟩ := exists_parts_of_readPath h
  have := readParts_shorter hothers
  simp only [List.length_append, List.length_cons]
  omega

/-- An argument takes at least one token. -/
theorem readArgument_shorter {tokens rest : List Token} {argument : Argument}
    (h : readArgument tokens = some (argument, rest)) : rest.length < tokens.length := by
  unfold readArgument at h
  split at h
  · cases h
  · next hp =>
    cases h
    have := readPath_shorter hp
    simp only [List.length_cons] at this
    omega
  · next hp =>
    cases h
    have := readPath_shorter hp
    simp only [List.length_cons] at this
    omega
  · next hp =>
    cases h
    exact readPath_shorter hp

/-- Reads the arguments of an attribute, as far as the tokens are a list of arguments. -/
def readArguments (tokens : List Token) : ArgumentList :=
  if tokens.isEmpty then ⟨[], true⟩
  else
    match h : readArgument tokens with
    | none => ⟨[], false⟩
    | some (argument, []) => ⟨[argument], true⟩
    | some (argument, .comma :: rest) =>
      have : rest.length < tokens.length := by
        have := readArgument_shorter h
        simp only [List.length_cons] at this
        omega
      let others := readArguments rest
      ⟨argument :: others.arguments, others.complete⟩
    | some (argument, _) => ⟨[argument], false⟩
termination_by tokens.length

theorem readArguments_complete_nil : readArguments [] = ⟨[], true⟩ := by
  simp [readArguments]

end RowBind.Declaration
