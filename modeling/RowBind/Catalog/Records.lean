import RowBind.Catalog.SelfDecoding
import RowBind.Record.Declared

/-!
# A catalogue of record types

The record types that the conformance suite reads into, with plain and renamed columns,
optional ones, embedded and nested records, ignored fields and a word case, and the records
that decode themselves.  Each is declared with its attributes; `home` is the path in front
of its name.
-/

namespace RowBind.Catalog

open Number Declaration

/-- A record type: its name and decoder, and the record with nothing assigned to it. -/
structure RecordType where
  info : RecordInfo Column
  blank : Record Column

/-- The destination of the type with nothing assigned to it. -/
def RecordType.destination (type : RecordType) : Destination Column :=
  .record type.info type.blank

/-- A field as the catalogue declares it. -/
structure CatalogField where
  declaration : FieldDeclaration
  content : FieldContent Column

/-! ## Writing declarations -/

/-- Tokens in front of others, with a comma. -/
def andThen (tokens more : List Token) : List Token := tokens ++ .comma :: more

/-- The argument `name = "…"`. -/
def nameIs (name : String) : List Token := [.identifier "name", .equals, .text name]

/-- The argument `rename_all = "…"`. -/
def renameAll (style : String) : List Token := [.identifier "rename_all", .equals, .text style]

/-- An argument without a value. -/
def flag (name : String) : List Token := [.identifier name]

/-- A column without attributes. -/
def field (ident : String) (t : Column) : CatalogField :=
  ⟨⟨ident, []⟩, .cell (.ofType t)⟩

/-- A column with arguments. -/
def fieldWith (ident : String) (tokens : List Token) (t : Column) : CatalogField :=
  ⟨⟨ident, [.arguments tokens]⟩, .cell (.ofType t)⟩

/-- A field that holds a record, with arguments. -/
def recordField (ident : String) (tokens : List Token) (type : RecordType) : CatalogField :=
  ⟨⟨ident, [.arguments tokens]⟩, .record type.blank⟩

/-- An embedded record. -/
def embedded (ident : String) (type : RecordType) : CatalogField := recordField ident (flag "embed") type

/-- A nested record. -/
def nested (ident : String) (type : RecordType) : CatalogField := recordField ident (flag "nested") type

/-- The record of declared fields, without any if the declaration is malformed. -/
def blankOf (attributes : List Attribute) (name : String) (fields : List CatalogField) :
    Record Column :=
  let declaration : RecordDeclaration := ⟨name, attributes, .named, fields.map (·.declaration)⟩
  match declaration.resolve with
  | .error _ => .nil
  | .ok resolved =>
    (Record.ofFields? (resolved.fields.zip (fields.map (·.content)))).getD .nil

/-- A record type with arguments. -/
def recordWith (tokens : List Token) (home name : String) (fields : List CatalogField) :
    RecordType :=
  ⟨⟨home ++ "::" ++ name, none⟩, blankOf [.arguments tokens] name fields⟩

/-- A record type without attributes. -/
def record (home name : String) (fields : List CatalogField) : RecordType :=
  ⟨⟨home ++ "::" ++ name, none⟩, blankOf [] name fields⟩

/-! ## Column types -/

/-- A scalar column. -/
def scalar (s : Scalar) : Column := .base (.inl s)

/-- A column of integers. -/
def integer (signed : Bool) (width : Width) : Column := scalar (.int ⟨signed, width⟩)

/-- Signed 32 bit integers. -/
def i32 : Column := integer true .w32

/-- Signed 64 bit integers. -/
def i64 : Column := integer true .w64

/-- Text. -/
def string : Column := scalar .text

/-! ## The record types -/

def item (home : String) : RecordType :=
  record home "Item" [field "id" i32, field "name" string]

def account (home : String) : RecordType :=
  record home "Account" [field "id" i64, field "email" (.optional string)]

def counter (home : String) : RecordType :=
  record home "Counter" [field "count" i64]

/-- No visible field. -/
def tag (home : String) : RecordType :=
  record home "Tag" [fieldWith "label" (flag "ignore") string]

def point (home : String) : RecordType :=
  record home "Point" [field "x" (scalar (.float .double)), field "y" (scalar (.float .double))]

def camel (home : String) : RecordType :=
  recordWith (renameAll "camelCase") home "Camel" [field "user_id" i32, field "display_name" string]

def audit (home : String) : RecordType :=
  record home "Audit" [field "created_by" string, field "version" i32]

def address (home : String) : RecordType :=
  record home "Address" [field "street" string, field "city" string]

/-- Every part that a field can play. -/
def customer (home : String) : RecordType :=
  record home "Customer" [fieldWith "id" (nameIs "customer_id") (integer false .w64),
    field "_name" string, embedded "audit" (audit home), nested "address" (address home),
    recordField "shipping" (andThen (flag "nested") (nameIs "ship")) (address home),
    fieldWith "cached" (flag "ignore") (.listOf string)]

def versioned (home : String) : RecordType :=
  record home "Versioned" [field "version" i64, embedded "audit" (audit home)]

/-- A column of every kind. -/
def simpleColumns : List CatalogField :=
  [field "alpha" (.optional (integer false .w8)), field "bravo" (.optional i32),
    field "charlie" (.optional (integer true .w16)),
    field "delta" (.optional (integer false .w64)), field "echo" (.optional (scalar .uuid)),
    field "foxtrot" (.optional (integer true .w128)), field "golf" (.optional (scalar .time)),
    field "hotel" (.optional (scalar .sharedText)),
    field "india" (.pointer .box (.optional (scalar .char))),
    field "juliet" (.optional (scalar .decimal)), field "kilo" (.optional (scalar .date)),
    field "lima" (.optional (scalar .timestamp)), field "mike" (.optional (scalar .zoned)),
    field "november" (.listOf i32), field "oscar" (.optional (scalar .bytes)),
    field "papa" (scalar .bool)]

def simpleFields (home : String) : RecordType :=
  record home "SimpleFields" simpleColumns

/-- A record type that decodes itself as `code` does, `assign` being its record. -/
def selfDecoding (code : SelfDecoding) (fields : List CatalogField)
    (assign : code.Content → List (Cell Column)) : RecordType :=
  let blank := blankOf [.arguments (flag "decode")] code.typeName fields
  { info := {
      name := code.typeName
      decode := some fun value => (code.ofValue value).map fun content =>
        blank.refill (assign content) }
    blank }

def money (home : String) : RecordType :=
  selfDecoding (.money home) [field "cents" i64, field "currency" string] fun m =>
    [⟨i64, m.cents⟩, ⟨string, m.currency⟩]

def version (home : String) : RecordType :=
  let number := integer false .w16
  selfDecoding (.version home) [field "major" number, field "minor" number] fun v =>
    [⟨number, v.major⟩, ⟨number, v.minor⟩]

end RowBind.Catalog
