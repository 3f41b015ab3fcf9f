import SchemaDiagram.Model.Diagram

/-!
# Storage

What a session asks of a storage: single writes that carry only what changed, and reads of whole
diagrams.  Any type with these operations will do; how a write inside a diagram changes the diagram
is said here once for all of them.
-/

namespace SchemaDiagram

/-- The kinds of entities that are stored one by one. -/
inductive EntityKind where
  | table
  | relationship
  | dependency
  deriving DecidableEq, Repr

def EntityKind.label : EntityKind → String
  | table => "Table"
  | relationship => "Relationship"
  | dependency => "Dependency"

/-- Why a storage refuses. -/
inductive StorageError where
  | diagramNotFound (id : Identifier)
  | entityNotFound (kind : EntityKind) (id : Identifier)
  | unavailable (reason : String)
  | serialization
  deriving DecidableEq, Repr

def StorageError.message : StorageError → String
  | diagramNotFound id => "Diagram " ++ id.toText ++ " doesn't exist"
  | entityNotFound kind id => kind.label ++ " " ++ id.toText ++ " doesn't exist"
  | unavailable reason => "Storage unavailable: " ++ reason
  | serialization => "Failed (de)serializing diagram"

/-- An update of a diagram's metadata: an attribute is kept where nothing is given. -/
structure DiagramUpdate where
  name : Option String := none
  dialect : Option Dialect := none
  updatedAt : Option Timestamp := none
  deriving DecidableEq, Repr

def Diagram.applyUpdate {κ : Type} (diagram : Diagram κ) (update : DiagramUpdate) : Diagram κ :=
  { diagram with
    name := update.name.getD diagram.name
    dialect := update.dialect.getD diagram.dialect
    updatedAt := update.updatedAt.getD diagram.updatedAt }

/-- A write inside one diagram. -/
inductive DiagramWrite (κ : Type) where
  | updateDiagram (update : DiagramUpdate)
  | clearTables
  | clearRelationships
  | clearDependencies
  | addTable (table : Table κ)
  /-- Replace the first table with the same identifier, or add the table. -/
  | putTable (table : Table κ)
  | updateTable (id : Identifier) (patch : TablePatch κ)
  | deleteTable (id : Identifier)
  | addRelationship (relationship : Relationship)
  | updateRelationship (id : Identifier) (patch : RelationshipPatch)
  | deleteRelationship (id : Identifier)
  | addDependency (dependency : Dependency)
  | updateDependency (id : Identifier) (patch : DependencyPatch)
  | deleteDependency (id : Identifier)

inductive Write (κ : Type) where
  | addDiagram (diagram : Diagram κ)
  | deleteDiagram (id : Identifier)
  | within (diagramId : Identifier) (write : DiagramWrite κ)

namespace DiagramWrite

/-- Change the first item that satisfies `p`, or fail if there is none. -/
def changeFirst {α : Type} (error : StorageError) (p : α → Bool) (change : α → α)
    (items : List α) : Except StorageError Unit × List α :=
  if items.any p then (.ok (), updateFirst p change items) else (.error error, items)

/-- Remove the items that satisfy `p`, and fail if the list is as long as before. -/
def removeAll {α : Type} (error : StorageError) (p : α → Bool) (items : List α) :
    Except StorageError Unit × List α :=
  let kept := items.filter fun item => !p item
  (if kept.length = items.length then .error error else .ok (), kept)

/-- Carry out a write on the diagram that it is addressed to.  The diagram is changed in place: what
is left of it counts also if the write fails. -/
def apply {κ : Type} (diagram : Diagram κ) :
    DiagramWrite κ → Except StorageError Unit × Diagram κ
  | updateDiagram update => (.ok (), diagram.applyUpdate update)
  | clearTables => (.ok (), { diagram with tables := [] })
  | clearRelationships => (.ok (), { diagram with relationships := [] })
  | clearDependencies => (.ok (), { diagram with dependencies := [] })
  | addTable table => (.ok (), { diagram with tables := diagram.tables ++ [table] })
  | putTable table =>
    (.ok (), { diagram with
      tables :=
        if diagram.tables.any fun other => other.id == table.id then
          updateFirst (fun other => other.id == table.id) (fun _ => table) diagram.tables
        else diagram.tables ++ [table] })
  | updateTable id patch =>
    let (result, tables) := changeFirst (.entityNotFound .table id) (fun table => table.id == id)
      (fun table => table.apply patch) diagram.tables
    (result, { diagram with tables := tables })
  | deleteTable id =>
    let (result, tables) := removeAll (.entityNotFound .table id) (fun table => table.id == id)
      diagram.tables
    (result, { diagram with tables := tables })
  | addRelationship relationship =>
    (.ok (), { diagram with relationships := diagram.relationships ++ [relationship] })
  | updateRelationship id patch =>
    let (result, relationships) := changeFirst (.entityNotFound .relationship id)
      (fun relationship => relationship.id == id) (fun relationship => relationship.apply patch)
      diagram.relationships
    (result, { diagram with relationships := relationships })
  | deleteRelationship id =>
    let (result, relationships) := removeAll (.entityNotFound .relationship id)
      (fun relationship => relationship.id == id) diagram.relationships
    (result, { diagram with relationships := relationships })
  | addDependency dependency =>
    (.ok (), { diagram with dependencies := diagram.dependencies ++ [dependency] })
  | updateDependency id patch =>
    let (result, dependencies) := changeFirst (.entityNotFound .dependency id)
      (fun dependency => dependency.id == id) (fun dependency => dependency.apply patch)
      diagram.dependencies
    (result, { diagram with dependencies := dependencies })
  | deleteDependency id =>
    let (result, dependencies) := removeAll (.entityNotFound .dependency id)
      (fun dependency => dependency.id == id) diagram.dependencies
    (result, { diagram with dependencies := dependencies })

end DiagramWrite

/-- A storage with contents of type `σ`.  Every operation may fail. -/
class Storage (σ : Type) (κ : outParam Type) where
  write : σ → Write κ → Except StorageError Unit × σ
  getDiagram : σ → Identifier → Except StorageError (Diagram κ)
  listDiagrams : σ → Except StorageError (List DiagramSummary)

/-- The first of two errors. -/
def firstError {ε : Type} (first second : Except ε Unit) : Except ε Unit :=
  match first with
  | .error error => .error error
  | .ok _ => second

namespace Storage

/-- Issue all writes, whether or not some of them fail, and report the first failure. -/
def writeAll {σ κ : Type} [Storage σ κ] (storage : σ) : List (Write κ) →
    Except StorageError Unit × σ
  | [] => (.ok (), storage)
  | write :: rest =>
    let (result, storage) := Storage.write storage write
    let (others, storage) := writeAll storage rest
    (firstError result others, storage)

end Storage

end SchemaDiagram
