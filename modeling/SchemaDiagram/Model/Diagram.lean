import SchemaDiagram.Model.Table
import SchemaDiagram.Model.Relationship
import SchemaDiagram.Model.Dependency

/-!
# Diagrams

A diagram is its metadata together with flat lists of tables, relationships and dependencies.  Where
several entities share an identifier, every lookup finds the first of them.
-/

namespace SchemaDiagram

structure Diagram (κ : Type) where
  id : Identifier
  name : String
  dialect : Dialect
  createdAt : Timestamp
  updatedAt : Timestamp
  tables : List (Table κ)
  relationships : List Relationship
  dependencies : List Dependency
  deriving BEq, Repr

/-- What a list of diagrams shows of each of them. -/
structure DiagramSummary where
  id : Identifier
  name : String
  dialect : Dialect
  createdAt : Timestamp
  updatedAt : Timestamp
  deriving DecidableEq, Repr

namespace Diagram

variable {κ : Type}

def new (stamp : Stamp) (name : String) (dialect : Dialect) : Diagram κ where
  id := stamp.id
  name := name
  dialect := dialect
  createdAt := stamp.time
  updatedAt := stamp.time
  tables := []
  relationships := []
  dependencies := []

/-- The entry of a diagram in a list. -/
def summary (diagram : Diagram κ) : DiagramSummary where
  id := diagram.id
  name := diagram.name
  dialect := diagram.dialect
  createdAt := diagram.createdAt
  updatedAt := diagram.updatedAt

/-- The first table with an identifier. -/
def table? (diagram : Diagram κ) (id : Identifier) : Option (Table κ) :=
  diagram.tables.find? fun table => table.id == id

def relationship? (diagram : Diagram κ) (id : Identifier) : Option Relationship :=
  diagram.relationships.find? fun relationship => relationship.id == id

def dependency? (diagram : Diagram κ) (id : Identifier) : Option Dependency :=
  diagram.dependencies.find? fun dependency => dependency.id == id

end Diagram

/-- Change the first item that satisfies `p`. -/
def updateFirst {α : Type} (p : α → Bool) (change : α → α) : List α → List α
  | [] => []
  | item :: rest => if p item then change item :: rest else item :: updateFirst p change rest

end SchemaDiagram
