import RowBind.Declaration.Arguments
import RowBind.Text.WordCase

/-!
# Declarations of records

A record is declared with its fields, and attributes say how it is read: a field can be
given a name of its own, ignored, embedded or nested; a record can decode itself, and can
have the names of its fields written in a word case.  `RecordDeclaration.resolve` works
out what each field is called and which part it plays, or says what is wrong.

The name of a field is its identifier without a leading underscore.  A name that the
declaration gives, or a word case, counts as explicit and is not changed later; only the
name of an embedded record stays open, which lends its columns no name anyway.
-/

namespace RowBind.Declaration

open Text

/-- The part that a field plays. -/
inductive Role where
  | column | embedded | nested | ignored
deriving DecidableEq, Repr

/-- An attribute, as far as it matters here. -/
inductive Attribute where
  /-- The attribute with arguments in parentheses. -/
  | arguments (tokens : List Token)
  /-- The attribute alone. -/
  | alone
  /-- The attribute with an equals sign and a value. -/
  | assigned
  /-- An attribute of some other purpose. -/
  | foreign
deriving DecidableEq, Repr

/-- A field with its attributes. -/
structure FieldDeclaration where
  ident : String
  attributes : List Attribute
deriving DecidableEq, Repr

/-- How the fields of a record are declared. -/
inductive Shape where
  | named | tuple | unit
deriving DecidableEq, Repr

/-- What is wrong with a declaration. -/
inductive DeclarationError where
  | fieldAttribute
  | recordAttribute
  | nameValue
  /-- An argument that takes no value has one. -/
  | valueGiven (argument : String)
  | renameAllValue
  | unknownArgument (path : Path)
  | unknownCase (name : String)
  | severalRoles (ident argument : String)
  | renamedEmbedded (ident : String)
  | tuple (record : String)
deriving DecidableEq, Repr

/-- The message of an error. -/
def DeclarationError.message : DeclarationError → String
  | fieldAttribute =>
    "Error while parsing `scanx`, use it like: `#[scanx(attribute = value, ...)]`"
  | recordAttribute =>
    "Error while parsing `scanx`, use it like: `#[scanx(attribute = value, ..)]`"
  | nameValue => "Error while parsing `name`, use it like: `#[scanx(name = \"my_column\")]`"
  | valueGiven argument =>
    s!"Error while parsing `{argument}`, use it like: `#[scanx({argument})]`"
  | renameAllValue =>
    "Error while parsing `rename_all`, use it like: `#[scanx(rename_all = \"camelCase\")]`"
  | unknownArgument path => s!"Unknown attribute `{path.shown}` inside scanx macro"
  | unknownCase name =>
    s!"Unknown case `{name}` in `rename_all`, expected one of: " ++
      "snake_case, camelCase, PascalCase, kebab-case, SCREAMING_SNAKE_CASE"
  | severalRoles ident argument =>
    s!"Field `{ident}` can have only one of `embed`, `nested` and `ignore`, " ++
      s!"found `{argument}` as well"
  | renamedEmbedded ident =>
    s!"Field `{ident}` is embedded, its columns keep their own names and `name` cannot be used"
  | tuple record =>
    s!"Record `{record}` must have named fields, tuple structs cannot be mapped to columns"

/-- What the arguments of a field ask for. -/
inductive FieldArgument where
  | name (content : String)
  | role (role : Role) (argument : String)
deriving DecidableEq, Repr

/-- What the arguments of a record ask for. -/
inductive RecordArgument where
  | decode
  | renameAll (style : WordCase)
deriving DecidableEq, Repr

/-- What an argument of a field asks for. -/
def fieldArgument (argument : Argument) : Except DeclarationError FieldArgument :=
  let role (role : Role) (name : String) : Except DeclarationError FieldArgument :=
    if argument.value = .none then .ok (.role role name) else .error (.valueGiven name)
  if argument.path.isIdentifier "name" then
    match argument.value with
    | .text content => .ok (.name content)
    | _ => .error .nameValue
  else if argument.path.isIdentifier "embed" then role .embedded "embed"
  else if argument.path.isIdentifier "nested" then role .nested "nested"
  else if argument.path.isIdentifier "ignore" then role .ignored "ignore"
  else .error (.unknownArgument argument.path)

/-- The word case of the given name. -/
def wordCaseOf (name : String) : Except DeclarationError WordCase :=
  if name = "snake_case" then .ok .snake
  else if name = "camelCase" then .ok .camel
  else if name = "PascalCase" then .ok .pascal
  else if name = "kebab-case" then .ok .kebab
  else if name = "SCREAMING_SNAKE_CASE" then .ok .screamingSnake
  else .error (.unknownCase name)

/-- What an argument of a record asks for. -/
def recordArgument (argument : Argument) : Except DeclarationError RecordArgument :=
  if argument.path.isIdentifier "decode" then
    if argument.value = .none then .ok .decode else .error (.valueGiven "decode")
  else if argument.path.isIdentifier "rename_all" then
    match argument.value with
    | .text content => (wordCaseOf content).map .renameAll
    | _ => .error .renameAllValue
  else .error (.unknownArgument argument.path)

/-- Everything that the attributes ask for, in order, up to the first error; `malformed`
is the error of an attribute that has no arguments in parentheses. -/
def gather {α : Type} (malformed : DeclarationError)
    (interpret : Argument → Except DeclarationError α) :
    List Attribute → Except DeclarationError (List α)
  | [] => .ok []
  | first :: rest => do
    let found ← match first with
      | .foreign => .ok []
      | .alone => .error malformed
      | .assigned => .error malformed
      | .arguments tokens => (readArguments tokens).arguments.mapM interpret
    let others ← gather malformed interpret rest
    return found ++ others

/-- A field with its name and its part. -/
structure ResolvedField where
  ident : String
  name : String
  renamed : Bool
  role : Role
deriving DecidableEq, Repr

/-- The name of a field without any attribute: the identifier without the mark of a raw
identifier and without one leading underscore. -/
def plainName (ident : String) : String :=
  let name := match ident.toList with
    | 'r' :: '#' :: rest => rest
    | name => name
  String.ofList (match name with
    | '_' :: rest => rest
    | name => name)

/-- The one role asked for, or that of a column; a second one is an error. -/
def roleOf (ident : String) : List FieldArgument → Except DeclarationError Role
  | [] => .ok .column
  | .name _ :: arguments => roleOf ident arguments
  | .role role _ :: arguments =>
    match arguments.find? fun
        | .role _ _ => true
        | .name _ => false with
    | some (.role _ argument) => .error (.severalRoles ident argument)
    | _ => .ok role

/-- The last name asked for. -/
def givenName? (arguments : List FieldArgument) : Option String :=
  arguments.reverse.findSome? fun
    | .name content => some content
    | .role _ _ => none

/-- Works out the name and the part of a field. -/
def resolveField (field : FieldDeclaration) : Except DeclarationError ResolvedField := do
  let arguments ← gather .fieldAttribute fieldArgument field.attributes
  let role ← roleOf field.ident arguments
  match givenName? arguments with
  | none => return ⟨field.ident, plainName field.ident, false, role⟩
  | some name =>
    if role = .embedded then throw (.renamedEmbedded field.ident)
    return ⟨field.ident, name, true, role⟩

/-- A declaration of a record. -/
structure RecordDeclaration where
  name : String
  attributes : List Attribute
  shape : Shape
  fields : List FieldDeclaration
deriving DecidableEq, Repr

/-- A record with its fields worked out. -/
structure ResolvedRecord where
  decodesItself : Bool
  fields : List ResolvedField
deriving DecidableEq, Repr

/-- The name of a field in a word case, unless it was given explicitly. -/
def ResolvedField.rename (style : WordCase) (field : ResolvedField) : ResolvedField :=
  if field.renamed then field
  else { field with name := style.apply field.name, renamed := field.role != .embedded }

/-- The last word case asked for. -/
def wordCase? (arguments : List RecordArgument) : Option WordCase :=
  arguments.reverse.findSome? fun
    | .renameAll style => some style
    | .decode => none

/-- Works out the fields of a record. -/
def RecordDeclaration.resolve (record : RecordDeclaration) :
    Except DeclarationError ResolvedRecord := do
  if record.shape = .tuple then throw (.tuple record.name)
  let fields ← record.fields.mapM resolveField
  let arguments ← gather .recordAttribute recordArgument record.attributes
  return {
    decodesItself := arguments.contains .decode
    fields := match wordCase? arguments with
      | none => fields
      | some style => fields.map (·.rename style) }

end RowBind.Declaration
