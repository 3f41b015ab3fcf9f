import SchemaDiagram.Session.Workspace

/-!
# Entities made by a session

A session can make entities of its own: tables, fields and indexes with numbered names, and links
between entities that exist.  Each of them is added with history.
-/

namespace SchemaDiagram.Workspace

variable {σ κ : Type} [Storage σ κ]

/-- Use up stamps, carry out a mutation with history, and answer with an entity if it succeeds. -/
def performFor {α : Type} (workspace : Workspace σ κ) (count : Nat) (mutation : Mutation κ)
    (entity : α) : Answer σ κ α :=
  let (result, workspace) :=
    (workspace.withSession (workspace.session.draw count)).perform mutation true
  (result.map fun _ => entity, workspace)

/-- A name with a number one above a count. -/
def numberedName (word : String) (count : Nat) : String :=
  word ++ "_" ++ String.ofList (Text.decimalDigits (count + 1))

/-- Add a table with a key field and the given attributes. -/
def createTable [Coordinate κ] (workspace : Workspace σ κ) (attributes : TablePatch κ) :
    Answer σ κ (Table κ) :=
  let session := workspace.session
  let key := (Field.new (session.supply.get 1) "id" session.dialect.idType).asPrimaryKey
  let table := Table.new (session.supply.get 0)
    (numberedName "table" session.tables.length) Coordinate.zero Coordinate.zero
  let table := (table.addField key).apply attributes
  workspace.performFor 2 (.addTables [table]) table

def createField (workspace : Workspace σ κ) (tableId : Identifier) : Answer σ κ Field :=
  let session := workspace.session
  match session.table? tableId with
  | none => (.error (.tableNotFound tableId), workspace)
  | some table =>
    let field := (Field.new (session.supply.get 0) (numberedName "field" table.fields.length)
      session.dialect.idType).asNullable
    workspace.performFor 1 (.insertField tableId field none) field

/-- Add an index over no field to a table. -/
def createIndex (workspace : Workspace σ κ) (tableId : Identifier) : Answer σ κ Index :=
  let session := workspace.session
  match session.table? tableId with
  | none => (.error (.tableNotFound tableId), workspace)
  | some table =>
    let index := Index.new (session.supply.get 0) (numberedName "index" table.indexes.length) []
    workspace.performFor 1 (.insertIndex tableId index none) index

/-- The end at a field, with the names of its table and of the field. -/
def endAt (session : Session κ) (tableId fieldId : Identifier) :
    Except SessionError (Endpoint × String × String) := do
  let table ← Mutation.orRefuse (.tableNotFound tableId) (session.table? tableId)
  let field ← Mutation.orRefuse (.fieldNotFound tableId fieldId) (table.field? fieldId)
  return (⟨tableId, fieldId, table.schema⟩, table.name, field.name)

/-- Link two fields by a one-to-one relationship named after the first one. -/
def createRelationship (workspace : Workspace σ κ) (source target : Identifier × Identifier) :
    Answer σ κ Relationship :=
  let session := workspace.session
  let ends : Except SessionError _ := do
    let (sourceEnd, tableName, fieldName) ← endAt session source.1 source.2
    let (targetEnd, _, _) ← endAt session target.1 target.2
    return (sourceEnd, targetEnd, tableName ++ "_" ++ fieldName ++ "_fk")
  match ends with
  | .error error => (.error error, workspace)
  | .ok (sourceEnd, targetEnd, name) =>
    let relationship := Relationship.new (session.supply.get 0) name sourceEnd targetEnd
    workspace.performFor 1 (.addRelationships [relationship]) relationship

/-- Let one table depend on another one. -/
def createDependency (workspace : Workspace σ κ) (tableId dependentTableId : Identifier) :
    Answer σ κ Dependency :=
  let session := workspace.session
  let tables : Except SessionError _ := do
    let table ← Mutation.orRefuse (.tableNotFound tableId) (session.table? tableId)
    let dependent ← Mutation.orRefuse (.tableNotFound dependentTableId)
      (session.table? dependentTableId)
    return (table.schema, dependent.schema)
  match tables with
  | .error error => (.error error, workspace)
  | .ok (schema, dependentSchema) =>
    let dependency := { Dependency.new (session.supply.get 0) tableId dependentTableId with
      schema := schema, dependentSchema := dependentSchema }
    workspace.performFor 1 (.addDependencies [dependency]) dependency

end SchemaDiagram.Workspace
