import SchemaDiagram.ContentHash

/-!
# Declarations

What a schema text declares: tables with fields and indexes, and relationships between named fields.
Declarations have no identity of their own.  An entity of the model may be attached to one when it
is recognised as a rename.
-/

namespace SchemaDiagram

structure FieldDeclaration where
  name : String
  dataType : DataType
  primaryKey : Bool
  unique : Bool
  nullable : Bool
  comment : Option String
  deriving DecidableEq, Repr

/-- A declared index over fields given by name. -/
structure IndexDeclaration where
  name : String
  unique : Bool
  fields : List String
  deriving DecidableEq, Repr

structure TableDeclaration where
  name : String
  comment : Option String
  fields : List FieldDeclaration
  indexes : List IndexDeclaration
  contentHash : Int32
  existingId : Option Identifier
  deriving DecidableEq, Repr

/-- A declared relationship between fields given by name. -/
structure RelationshipDeclaration where
  name : String
  sourceTable : String
  sourceField : String
  targetTable : String
  targetField : String
  sourceCardinality : Cardinality
  targetCardinality : Cardinality
  contentHash : Int32
  existingId : Option Identifier
  deriving DecidableEq, Repr

/-- Everything that a schema text declares. -/
structure DeclaredSchema where
  tables : List TableDeclaration
  relationships : List RelationshipDeclaration
  deriving DecidableEq, Repr

def TableDeclaration.fieldNames (table : TableDeclaration) : List String :=
  table.fields.map FieldDeclaration.name

end SchemaDiagram
