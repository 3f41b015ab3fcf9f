import SchemaDiagram.Supply

/-!
# Indexes

An index over an ordered list of a table's own fields, and the partial updates of one.
-/

namespace SchemaDiagram

/-- An index of a table.  An index that backs the primary key is implicit: it never appears in
schema text. -/
structure Index where
  id : Identifier
  name : String
  unique : Bool
  fieldIds : List Identifier
  isPrimaryKey : Bool
  createdAt : Timestamp
  deriving DecidableEq, Repr

/-- An update of an index: an attribute is kept where nothing is given. -/
structure IndexPatch where
  name : Option String := none
  unique : Option Bool := none
  fieldIds : Option (List Identifier) := none
  deriving DecidableEq, Repr

namespace Index

def new (stamp : Stamp) (name : String) (fieldIds : List Identifier) : Index where
  id := stamp.id
  name := name
  unique := false
  fieldIds := fieldIds
  isPrimaryKey := false
  createdAt := stamp.time

def asUnique (index : Index) : Index :=
  { index with unique := true }

def apply (index : Index) (patch : IndexPatch) : Index :=
  { index with
    name := patch.name.getD index.name
    unique := patch.unique.getD index.unique
    fieldIds := patch.fieldIds.getD index.fieldIds }

end Index

/-- The update that copies every attribute of an index. -/
def IndexPatch.replaceWith (index : Index) : IndexPatch where
  name := some index.name
  unique := some index.unique
  fieldIds := some index.fieldIds

end SchemaDiagram
