import SchemaDiagram.Supply

/-!
# Relationships

A link between a field of one table and a field of another one, in the manner of a foreign key, and
the partial updates of one.  Both ends refer to tables and fields by identifier only.
-/

namespace SchemaDiagram

/-- How many rows may stand on one side of a relationship. -/
inductive Cardinality where
  | one
  | many
  deriving DecidableEq, Repr, Inhabited

namespace Cardinality

/-- The mark that stands for a cardinality in schema text. -/
def mark : Cardinality → String
  | one => "1"
  | many => "N"

/-- The cardinality that a mark stands for: everything but `1` means many. -/
def ofMark (mark : String) : Cardinality :=
  if mark = "1" then one else many

end Cardinality

structure Endpoint where
  tableId : Identifier
  fieldId : Identifier
  schema : Option String
  deriving DecidableEq, Repr

/-- An end at a field, without a schema. -/
def Endpoint.new (tableId fieldId : Identifier) : Endpoint := ⟨tableId, fieldId, none⟩

/-- A link between two fields. -/
structure Relationship where
  id : Identifier
  name : String
  source : Endpoint
  target : Endpoint
  sourceCardinality : Cardinality
  targetCardinality : Cardinality
  createdAt : Timestamp
  deriving DecidableEq, Repr

/-- An update of a relationship: an attribute is kept where nothing is given. -/
structure RelationshipPatch where
  name : Option String := none
  source : Option Endpoint := none
  target : Option Endpoint := none
  sourceCardinality : Option Cardinality := none
  targetCardinality : Option Cardinality := none
  deriving DecidableEq, Repr

namespace Relationship

/-- A fresh one-to-one relationship. -/
def new (stamp : Stamp) (name : String) (source target : Endpoint) : Relationship where
  id := stamp.id
  name := name
  source := source
  target := target
  sourceCardinality := .one
  targetCardinality := .one
  createdAt := stamp.time

def withCardinality (relationship : Relationship) (source target : Cardinality) : Relationship :=
  { relationship with sourceCardinality := source, targetCardinality := target }

/-- Whether an end stands at one of the given tables. -/
def touchesAny (relationship : Relationship) (tableIds : List Identifier) : Bool :=
  tableIds.contains relationship.source.tableId || tableIds.contains relationship.target.tableId

def apply (relationship : Relationship) (patch : RelationshipPatch) : Relationship :=
  { relationship with
    name := patch.name.getD relationship.name
    source := patch.source.getD relationship.source
    target := patch.target.getD relationship.target
    sourceCardinality := patch.sourceCardinality.getD relationship.sourceCardinality
    targetCardinality := patch.targetCardinality.getD relationship.targetCardinality }

end Relationship

/-- The update that copies every attribute of a relationship. -/
def RelationshipPatch.replaceWith (relationship : Relationship) : RelationshipPatch where
  name := some relationship.name
  source := some relationship.source
  target := some relationship.target
  sourceCardinality := some relationship.sourceCardinality
  targetCardinality := some relationship.targetCardinality

end SchemaDiagram
