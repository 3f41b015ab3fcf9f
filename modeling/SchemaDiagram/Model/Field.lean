import SchemaDiagram.DataType
import SchemaDiagram.Supply

/-!
# Fields

A column of a table, and the partial updates of one.  An update that sets every attribute turns any
field into a copy of a given one, up to the identifier and the time of creation.
-/

namespace SchemaDiagram

/-- A column of a table. -/
structure Field where
  id : Identifier
  name : String
  dataType : DataType
  nullable : Bool
  unique : Bool
  primaryKey : Bool
  comment : Option String
  createdAt : Timestamp
  deriving DecidableEq, Repr

/-- An update of a field: an attribute is kept where nothing is given.  The comment can also be
cleared. -/
structure FieldPatch where
  name : Option String := none
  dataType : Option DataType := none
  nullable : Option Bool := none
  unique : Option Bool := none
  primaryKey : Option Bool := none
  comment : Option (Option String) := none
  deriving DecidableEq, Repr

namespace Field

/-- A fresh field that is neither nullable nor unique nor a key. -/
def new (stamp : Stamp) (name : String) (dataType : DataType) : Field where
  id := stamp.id
  name := name
  dataType := dataType
  nullable := false
  unique := false
  primaryKey := false
  comment := none
  createdAt := stamp.time

/-- Make a field the primary key: unique and not nullable. -/
def asPrimaryKey (field : Field) : Field :=
  { field with primaryKey := true, unique := true, nullable := false }

def asNullable (field : Field) : Field :=
  { field with nullable := true }

def asUnique (field : Field) : Field :=
  { field with unique := true }

def withComment (field : Field) (comment : String) : Field :=
  { field with comment := some comment }

def apply (field : Field) (patch : FieldPatch) : Field :=
  { field with
    name := patch.name.getD field.name
    dataType := patch.dataType.getD field.dataType
    nullable := patch.nullable.getD field.nullable
    unique := patch.unique.getD field.unique
    primaryKey := patch.primaryKey.getD field.primaryKey
    comment := patch.comment.getD field.comment }

end Field

/-- The update that copies every attribute of a field. -/
def FieldPatch.replaceWith (field : Field) : FieldPatch where
  name := some field.name
  dataType := some field.dataType
  nullable := some field.nullable
  unique := some field.unique
  primaryKey := some field.primaryKey
  comment := some field.comment

end SchemaDiagram
