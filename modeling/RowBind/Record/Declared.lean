import RowBind.Declaration
import RowBind.Destination

/-!
# Records from their declarations

A declaration tells the names and the parts of fields, the contents come beside it: the
cell of a column or of an ignored field, and the record of an embedded or nested one.
-/

namespace RowBind

open Declaration

/-- What a declared field holds. -/
inductive FieldContent (τ : Type) [ColumnFamily τ] where
  | cell (cell : Cell τ)
  | record (fields : Record τ)

/-- The names of a field for the layout of its record. -/
def Declaration.ResolvedField.fieldName (field : ResolvedField) : FieldName :=
  ⟨field.ident, field.name, field.renamed⟩

namespace Record

variable {τ : Type} [ColumnFamily τ]

/-- One field in front of the others. -/
def withField? (field : ResolvedField) (content : FieldContent τ) (rest : Record τ) :
    Option (Record τ) :=
  match field.role, content with
  | .column, .cell cell => some (.column field.fieldName cell rest)
  | .ignored, .cell cell => some (.ignored field.ident cell rest)
  | .embedded, .record inner => some (.embedded field.fieldName inner rest)
  | .nested, .record inner => some (.nested field.fieldName inner rest)
  | _, _ => none

/-- The record of fields with their contents, if the contents go with their parts. -/
def ofFields? : List (ResolvedField × FieldContent τ) → Option (Record τ)
  | [] => some .nil
  | (field, content) :: fields => (ofFields? fields).bind (withField? field content)

end Record

end RowBind
