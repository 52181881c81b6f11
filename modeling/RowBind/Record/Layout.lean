/-!
# The layout of a record

A record is a tree of fields.  A field is a column, or a record of its own: an embedded
one lends its columns their own names, a nested one puts its own name and a point in
front of them.  The layout of a record is this tree with the names of the fields;
ignored fields are no part of it.
-/

namespace RowBind

/-- The names of a field: in the declaration, and for its column. -/
structure FieldName where
  /-- The identifier of the field. -/
  ident : String
  /-- The name of its column, without anything in front of it. -/
  name : String
  /-- The name was given explicitly and is used as it is. -/
  renamed : Bool
deriving DecidableEq, Repr

/-- The visible fields of a record, in the order of their declaration. -/
inductive Layout where
  | nil
  /-- A column, and the fields behind it. -/
  | column (field : FieldName) (rest : Layout)
  /-- A record whose columns keep their names, and the fields behind it. -/
  | embedded (field : FieldName) (inner rest : Layout)
  /-- A record whose columns are reached through its name, and the fields behind it. -/
  | nested (field : FieldName) (inner rest : Layout)
deriving DecidableEq, Repr

namespace Layout

/-- The number of columns, those of inner records included. -/
def columnCount : Layout → Nat
  | nil => 0
  | column _ rest => 1 + rest.columnCount
  | embedded _ inner rest => inner.columnCount + rest.columnCount
  | nested _ inner rest => inner.columnCount + rest.columnCount

end Layout

end RowBind
