import RowBind.Declaration

/-!
# How attributes are written

The arguments of an attribute are written with commas between them, and a comma may follow the
last one.  An argument is a path, alone or with an equals sign and a text behind it.  A field
knows four arguments and a record two, each in one form.

All this is said of tokens and of what they stand for, and not of how they are read.

Main definitions: `Written`, attributes as they are meant to be; and `BrokenOff`, attributes that
are none of that, whatever their arguments may be.
-/

namespace RowBind.Declaration

variable {α : Type}

/-! ## Arguments -/

/-- The tokens of a path that has parts. -/
def Path.tokens (path : Path) : List Token :=
  match path.parts with
  | [] => []
  | first :: others =>
    (if path.rooted then [.separator] else []) ++
      .identifier first :: others.flatMap fun part => [.separator, .identifier part]

/-- The tokens of what follows a path.  Of a value that is no text, they are the equals sign. -/
def ArgumentValue.tokens : ArgumentValue → List Token
  | .none => []
  | .text content => [.equals, .text content]
  | .other => [.equals]

/-- The tokens spell the argument. -/
def Spells (tokens : List Token) (argument : Argument) : Prop :=
  argument.path.parts ≠ [] ∧ tokens = argument.path.tokens ++ argument.value.tokens

/-- The forms of the arguments that a field knows. -/
inductive FieldForm : List Token → FieldArgument → Prop
  | name (content : String) :
      FieldForm [.identifier "name", .equals, .text content] (.name content)
  | embed : FieldForm [.identifier "embed"] (.role .embedded "embed")
  | nested : FieldForm [.identifier "nested"] (.role .nested "nested")
  | ignore : FieldForm [.identifier "ignore"] (.role .ignored "ignore")

/-- The forms of the arguments that a record knows. -/
inductive RecordForm : List Token → RecordArgument → Prop
  | decode : RecordForm [.identifier "decode"] .decode
  | renameAll {name : String} {style : Text.WordCase} (h : wordCaseOf name = .ok style) :
      RecordForm [.identifier "rename_all", .equals, .text name] (.renameAll style)

/-! ## Lists -/

/-- Items of a form with commas between them; a comma may follow the last one. -/
inductive Listed (form : List Token → α → Prop) : List Token → List α → Prop
  | nil : Listed form [] []
  | last {tokens : List Token} {item : α} (h : form tokens item) : Listed form tokens [item]
  | cons {tokens rest : List Token} {item : α} {items : List α} (h : form tokens item)
      (hrest : Listed form rest items) : Listed form (tokens ++ .comma :: rest) (item :: items)

/-- What the attributes ask for, if each of them is a list of items of the form; attributes of
some other purpose may stand between them. -/
inductive Written (form : List Token → α → Prop) : List Attribute → List α → Prop
  | nil : Written form [] []
  | foreign {attributes : List Attribute} {asked : List α} (h : Written form attributes asked) :
      Written form (.foreign :: attributes) asked
  | arguments {tokens : List Token} {attributes : List Attribute} {items asked : List α}
      (hitems : Listed form tokens items) (h : Written form attributes asked) :
      Written form (.arguments tokens :: attributes) (items ++ asked)

/-! ## Broken lists -/

/-- The tokens of some attribute are no list of arguments: behind an argument stands something
other than a comma, or where one should stand there is none. -/
def BrokenOff (attributes : List Attribute) : Prop :=
  ∃ tokens, .arguments tokens ∈ attributes ∧ ∀ arguments, ¬ Listed Spells tokens arguments

/-- The second attribute is the first one, or what is left of it if its list is cut off. -/
inductive Attribute.CutTo : Attribute → Attribute → Prop
  | same (whole : Attribute) : CutTo whole whole
  | front {tokens front : List Token} (h : front <+: tokens) :
      CutTo (.arguments tokens) (.arguments front)

end RowBind.Declaration
