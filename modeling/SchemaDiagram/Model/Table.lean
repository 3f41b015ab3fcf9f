import SchemaDiagram.Model.Field
import SchemaDiagram.Model.Index

/-!
# Tables

A table with its fields, indexes and place on the canvas, and the partial updates of one.  The type
`κ` of coordinates is a parameter: the program uses doubles, and exact numbers serve for reasoning.
-/

namespace SchemaDiagram

structure Table (κ : Type) where
  id : Identifier
  name : String
  schema : Option String
  fields : List Field
  indexes : List Index
  color : String
  x : κ
  y : κ
  isView : Bool
  comment : Option String
  createdAt : Timestamp
  deriving BEq, Repr

/-- An update of a table: an attribute is kept where nothing is given.  Schema and comment can also
be cleared. -/
structure TablePatch (κ : Type) where
  name : Option String := none
  schema : Option (Option String) := none
  fields : Option (List Field) := none
  indexes : Option (List Index) := none
  color : Option String := none
  position : Option (κ × κ) := none
  isView : Option Bool := none
  comment : Option (Option String) := none
  deriving BEq, Repr

namespace Table

variable {κ : Type}

/-- A fresh table without fields at a given place. -/
def new (stamp : Stamp) (name : String) (x y : κ) : Table κ where
  id := stamp.id
  name := name
  schema := none
  fields := []
  indexes := []
  color := stamp.color
  x := x
  y := y
  isView := false
  comment := none
  createdAt := stamp.time

def withPosition (table : Table κ) (x y : κ) : Table κ :=
  { table with x := x, y := y }

def withSchema (table : Table κ) (schema : String) : Table κ :=
  { table with schema := some schema }

def withComment (table : Table κ) (comment : String) : Table κ :=
  { table with comment := some comment }

def addField (table : Table κ) (field : Field) : Table κ :=
  { table with fields := table.fields ++ [field] }

def addIndex (table : Table κ) (index : Index) : Table κ :=
  { table with indexes := table.indexes ++ [index] }

/-- The first field with an identifier. -/
def field? (table : Table κ) (id : Identifier) : Option Field :=
  table.fields.find? fun field => field.id == id

def fieldNamed? (table : Table κ) (name : String) : Option Field :=
  table.fields.find? fun field => field.name == name

def index? (table : Table κ) (id : Identifier) : Option Index :=
  table.indexes.find? fun index => index.id == id

def apply (table : Table κ) (patch : TablePatch κ) : Table κ :=
  { table with
    name := patch.name.getD table.name
    schema := patch.schema.getD table.schema
    fields := patch.fields.getD table.fields
    indexes := patch.indexes.getD table.indexes
    color := patch.color.getD table.color
    x := (patch.position.map Prod.fst).getD table.x
    y := (patch.position.map Prod.snd).getD table.y
    isView := patch.isView.getD table.isView
    comment := patch.comment.getD table.comment }

end Table

/-- The update that copies every attribute of a table. -/
def TablePatch.replaceWith {κ : Type} (table : Table κ) : TablePatch κ where
  name := some table.name
  schema := some table.schema
  fields := some table.fields
  indexes := some table.indexes
  color := some table.color
  position := some (table.x, table.y)
  isView := some table.isView
  comment := some table.comment

end SchemaDiagram
