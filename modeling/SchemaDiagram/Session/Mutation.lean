import SchemaDiagram.Event
import SchemaDiagram.Positioned
import SchemaDiagram.Storage.Basic

/-!
# Mutations

Every change of a diagram is a mutation, given as data.  A mutation says what becomes of the
diagram, what is announced, what is written, and which step undoes and redoes it; or it is refused.
The diagram is changed in place, so that a refusal has to say what it leaves of it: a removal takes
the list apart before it knows whether anything in it was asked for.
-/

namespace SchemaDiagram

/-- Why a session refuses. -/
inductive SessionError where
  | noDiagramLoaded
  | tableNotFound (id : Identifier)
  | fieldNotFound (tableId fieldId : Identifier)
  | indexNotFound (tableId indexId : Identifier)
  | relationshipNotFound (id : Identifier)
  | dependencyNotFound (id : Identifier)
  | storage (error : StorageError)
  deriving DecidableEq, Repr

def SessionError.message : SessionError → String
  | noDiagramLoaded => "No diagram is loaded"
  | tableNotFound id => "Table " ++ id.toText ++ " doesn't exist"
  | fieldNotFound tableId fieldId =>
    "Field " ++ fieldId.toText ++ " doesn't exist in table " ++ tableId.toText
  | indexNotFound tableId indexId =>
    "Index " ++ indexId.toText ++ " doesn't exist in table " ++ tableId.toText
  | relationshipNotFound id => "Relationship " ++ id.toText ++ " doesn't exist"
  | dependencyNotFound id => "Dependency " ++ id.toText ++ " doesn't exist"
  | storage error => error.message

/-- What a given list of tables means for the tables of a diagram. -/
inductive TablesMode where
  /-- The order of the diagram is kept; tables are replaced by identifier, or dropped if they are
  not given. -/
  | merge
  /-- The given list takes the place of the old one. -/
  | override
  deriving DecidableEq, Repr, Inhabited

/-- Links taken out of a diagram together with tables, with their positions. -/
structure DetachedLinks where
  relationships : List (Nat × Relationship)
  dependencies : List (Nat × Dependency)
  deriving DecidableEq, Repr

/-- The writes that delete detached links. -/
def DetachedLinks.deletions {κ : Type} (links : DetachedLinks) : List (DiagramWrite κ) :=
  (links.relationships.map fun entry => .deleteRelationship entry.2.id) ++
    links.dependencies.map fun entry => .deleteDependency entry.2.id

/-- A change that can be undone and redone.  Removed entities come with their positions. -/
inductive Step (κ : Type) where
  | renameDiagram (before after : String)
  | addTables (tables : List (Table κ))
  | removeTables (tables : List (Nat × Table κ)) (links : DetachedLinks)
  | updateTable (before after : Table κ)
  | setTables (before after : List (Table κ)) (links : DetachedLinks)
  | addField (tableId : Identifier) (field : Field)
  | removeField (tableId : Identifier) (field : Field) (position : Nat)
  | updateField (tableId : Identifier) (before after : Field)
  | addIndex (tableId : Identifier) (index : Index)
  | removeIndex (tableId : Identifier) (index : Index) (position : Nat)
  | updateIndex (tableId : Identifier) (before after : Index)
  | addRelationships (relationships : List Relationship)
  | removeRelationships (relationships : List (Nat × Relationship))
  | updateRelationship (before after : Relationship)
  | addDependencies (dependencies : List Dependency)
  | removeDependencies (dependencies : List (Nat × Dependency))
  | updateDependency (before after : Dependency)

inductive Mutation (κ : Type) where
  | renameDiagram (name : String)
  /-- Put tables at given positions. -/
  | insertTables (entries : List (Nat × Table κ))
  /-- Put tables behind the others. -/
  | addTables (tables : List (Table κ))
  | removeTables (ids : List Identifier)
  | updateTable (id : Identifier) (patch : TablePatch κ)
  | setTables (tables : List (Table κ)) (mode : TablesMode)
  /-- Put a field at a position, or behind the others. -/
  | insertField (tableId : Identifier) (field : Field) (position : Option Nat)
  | updateField (tableId fieldId : Identifier) (patch : FieldPatch)
  | removeField (tableId fieldId : Identifier)
  | insertIndex (tableId : Identifier) (index : Index) (position : Option Nat)
  | updateIndex (tableId indexId : Identifier) (patch : IndexPatch)
  | removeIndex (tableId indexId : Identifier)
  | insertRelationships (entries : List (Nat × Relationship))
  | addRelationships (relationships : List Relationship)
  | removeRelationships (ids : List Identifier)
  | updateRelationship (id : Identifier) (patch : RelationshipPatch)
  | insertDependencies (entries : List (Nat × Dependency))
  | addDependencies (dependencies : List Dependency)
  | removeDependencies (ids : List Identifier)
  | updateDependency (id : Identifier) (patch : DependencyPatch)

/-- What a mutation does, the time of the update apart. -/
structure Change (κ : Type) where
  diagram : Diagram κ
  events : List Event
  step : Step κ
  /-- The new name, if the diagram is renamed. -/
  newName : Option String := none
  writes : List (DiagramWrite κ)

/-- Why a mutation is refused, and what it leaves of the diagram. -/
structure Refusal (κ : Type) where
  error : SessionError
  diagram : Diagram κ

namespace Mutation

variable {κ : Type}

/-- Refuse unless there is a value. -/
def orRefuse {ε α : Type} (refusal : ε) : Option α → Except ε α
  | some value => .ok value
  | none => .error refusal

/-- Take the relationships and dependencies at the given tables out of a diagram. -/
def detachLinks (diagram : Diagram κ) (tableIds : List Identifier) : DetachedLinks × Diagram κ :=
  let (relationships, keptRelationships) :=
    takePositioned (fun relationship => relationship.touchesAny tableIds) diagram.relationships
  let (dependencies, keptDependencies) :=
    takePositioned (fun dependency => dependency.touchesAny tableIds) diagram.dependencies
  (⟨relationships, dependencies⟩,
    { diagram with relationships := keptRelationships, dependencies := keptDependencies })

def renameChange (diagram : Diagram κ) (name : String) : Change κ where
  diagram := { diagram with name := name }
  events := [.diagramRenamed name]
  step := .renameDiagram diagram.name name
  newName := some name
  writes := []

/-! ## Tables -/

/-- Put tables at given positions. -/
def insertTablesChange (diagram : Diagram κ) (entries : List (Nat × Table κ)) : Change κ :=
  let tables := entries.map Prod.snd
  { diagram := { diagram with tables := insertPositioned diagram.tables entries }
    events := [.tablesAdded (tables.map Table.id)]
    step := .addTables tables
    writes := tables.map .addTable }

/-- Remove tables and the links at them.  It is refused if there are none of the tables asked
for. -/
def removeTablesChange (diagram : Diagram κ) (ids : List Identifier) :
    Except (Refusal κ) (Change κ) :=
  let (taken, kept) := takePositioned (fun table => ids.contains table.id) diagram.tables
  let diagram := { diagram with tables := kept }
  match taken, ids with
  | [], first :: _ => .error ⟨.tableNotFound first, diagram⟩
  | _, _ =>
    let removed := taken.map fun entry => entry.2.id
    let (links, diagram) := detachLinks diagram removed
    .ok {
      diagram := diagram
      events := [.tablesRemoved removed]
      step := .removeTables taken links
      writes := links.deletions ++ removed.map .deleteTable }

def updateTableChange (diagram : Diagram κ) (id : Identifier) (patch : TablePatch κ) :
    Except (Refusal κ) (Change κ) := do
  let before ← orRefuse ⟨.tableNotFound id, diagram⟩ (diagram.table? id)
  return {
    diagram := { diagram with
      tables := updateFirst (fun table => table.id == id) (fun table => table.apply patch)
        diagram.tables }
    events := [.tableUpdated id]
    step := .updateTable before (before.apply patch)
    writes := [.updateTable id patch] }

/-- The tables that a given list leads to. -/
def tablesAfter (before given : List (Table κ)) : TablesMode → List (Table κ)
  | .override => given
  | .merge => before.filterMap fun old => given.find? fun table => table.id == old.id

/-- Replace the tables as a whole; the links at tables that disappear go with them. -/
def setTablesChange (diagram : Diagram κ) (given : List (Table κ)) (mode : TablesMode) :
    Change κ :=
  let after := tablesAfter diagram.tables given mode
  let removed := (diagram.tables.filter fun old =>
    !(after.any fun table => table.id == old.id)).map Table.id
  let (links, detached) := detachLinks diagram removed
  { diagram := { detached with tables := after }
    events := if removed.isEmpty then [] else [.tablesRemoved removed]
    step := .setTables diagram.tables after links
    writes := after.map .putTable ++ removed.map .deleteTable ++ links.deletions }

/-! ## Fields and indexes -/

def fieldsChange (diagram : Diagram κ) (tableId : Identifier) (fields : List Field) (event : Event)
    (step : Step κ) : Change κ where
  diagram := { diagram with
    tables := updateFirst (fun table => table.id == tableId)
      (fun table => { table with fields := fields }) diagram.tables }
  events := [event]
  step := step
  writes := [.updateTable tableId { fields := some fields }]

def indexesChange (diagram : Diagram κ) (tableId : Identifier) (indexes : List Index)
    (step : Step κ) : Change κ where
  diagram := { diagram with
    tables := updateFirst (fun table => table.id == tableId)
      (fun table => { table with indexes := indexes }) diagram.tables }
  events := [.indexesChanged tableId]
  step := step
  writes := [.updateTable tableId { indexes := some indexes }]

/-- Put a field at a position, or behind the others. -/
def insertFieldChange (diagram : Diagram κ) (tableId : Identifier) (field : Field)
    (position : Option Nat) : Except (Refusal κ) (Change κ) := do
  let table ← orRefuse ⟨.tableNotFound tableId, diagram⟩ (diagram.table? tableId)
  let fields := insertClamped table.fields (position.getD table.fields.length) field
  return fieldsChange diagram tableId fields (.fieldAdded tableId field.id)
    (.addField tableId field)

def updateFieldChange (diagram : Diagram κ) (tableId fieldId : Identifier) (patch : FieldPatch) :
    Except (Refusal κ) (Change κ) := do
  let table ← orRefuse ⟨.tableNotFound tableId, diagram⟩ (diagram.table? tableId)
  let before ← orRefuse ⟨.fieldNotFound tableId fieldId, diagram⟩ (table.field? fieldId)
  let fields := updateFirst (fun field => field.id == fieldId) (fun field => field.apply patch)
    table.fields
  return fieldsChange diagram tableId fields (.fieldUpdated tableId fieldId)
    (.updateField tableId before (before.apply patch))

def removeFieldChange (diagram : Diagram κ) (tableId fieldId : Identifier) :
    Except (Refusal κ) (Change κ) := do
  let table ← orRefuse ⟨.tableNotFound tableId, diagram⟩ (diagram.table? tableId)
  let field ← orRefuse ⟨.fieldNotFound tableId fieldId, diagram⟩ (table.field? fieldId)
  let position := table.fields.findIdx fun field => field.id == fieldId
  return fieldsChange diagram tableId (table.fields.eraseIdx position)
    (.fieldRemoved tableId fieldId) (.removeField tableId field position)

/-- Put an index at a position, or behind the others. -/
def insertIndexChange (diagram : Diagram κ) (tableId : Identifier) (index : Index)
    (position : Option Nat) : Except (Refusal κ) (Change κ) := do
  let table ← orRefuse ⟨.tableNotFound tableId, diagram⟩ (diagram.table? tableId)
  let indexes := insertClamped table.indexes (position.getD table.indexes.length) index
  return indexesChange diagram tableId indexes (.addIndex tableId index)

def updateIndexChange (diagram : Diagram κ) (tableId indexId : Identifier) (patch : IndexPatch) :
    Except (Refusal κ) (Change κ) := do
  let table ← orRefuse ⟨.tableNotFound tableId, diagram⟩ (diagram.table? tableId)
  let before ← orRefuse ⟨.indexNotFound tableId indexId, diagram⟩ (table.index? indexId)
  let indexes := updateFirst (fun index => index.id == indexId) (fun index => index.apply patch)
    table.indexes
  return indexesChange diagram tableId indexes (.updateIndex tableId before (before.apply patch))

def removeIndexChange (diagram : Diagram κ) (tableId indexId : Identifier) :
    Except (Refusal κ) (Change κ) := do
  let table ← orRefuse ⟨.tableNotFound tableId, diagram⟩ (diagram.table? tableId)
  let index ← orRefuse ⟨.indexNotFound tableId indexId, diagram⟩ (table.index? indexId)
  let position := table.indexes.findIdx fun index => index.id == indexId
  return indexesChange diagram tableId (table.indexes.eraseIdx position)
    (.removeIndex tableId index position)

/-! ## Relationships -/

def insertRelationshipsChange (diagram : Diagram κ) (entries : List (Nat × Relationship)) :
    Change κ :=
  let relationships := entries.map Prod.snd
  { diagram := { diagram with
      relationships := insertPositioned diagram.relationships entries }
    events := [.relationshipsAdded (relationships.map Relationship.id)]
    step := .addRelationships relationships
    writes := relationships.map .addRelationship }

/-- Remove relationships.  It is refused if there are none of those asked for. -/
def removeRelationshipsChange (diagram : Diagram κ) (ids : List Identifier) :
    Except (Refusal κ) (Change κ) :=
  let (taken, kept) :=
    takePositioned (fun relationship => ids.contains relationship.id) diagram.relationships
  let diagram := { diagram with relationships := kept }
  match taken, ids with
  | [], first :: _ => .error ⟨.relationshipNotFound first, diagram⟩
  | _, _ =>
    let removed := taken.map fun entry => entry.2.id
    .ok {
      diagram := diagram
      events := [.relationshipsRemoved removed]
      step := .removeRelationships taken
      writes := removed.map .deleteRelationship }

def updateRelationshipChange (diagram : Diagram κ) (id : Identifier) (patch : RelationshipPatch) :
    Except (Refusal κ) (Change κ) := do
  let before ← orRefuse ⟨.relationshipNotFound id, diagram⟩ (diagram.relationship? id)
  return {
    diagram := { diagram with
      relationships := updateFirst (fun relationship => relationship.id == id)
        (fun relationship => relationship.apply patch) diagram.relationships }
    events := [.relationshipUpdated id]
    step := .updateRelationship before (before.apply patch)
    writes := [.updateRelationship id patch] }

/-! ## Dependencies -/

def insertDependenciesChange (diagram : Diagram κ) (entries : List (Nat × Dependency)) :
    Change κ :=
  let dependencies := entries.map Prod.snd
  { diagram := { diagram with
      dependencies := insertPositioned diagram.dependencies entries }
    events := [.dependenciesAdded (dependencies.map Dependency.id)]
    step := .addDependencies dependencies
    writes := dependencies.map .addDependency }

/-- Remove dependencies.  It is refused if there are none of those asked for. -/
def removeDependenciesChange (diagram : Diagram κ) (ids : List Identifier) :
    Except (Refusal κ) (Change κ) :=
  let (taken, kept) :=
    takePositioned (fun dependency => ids.contains dependency.id) diagram.dependencies
  let diagram := { diagram with dependencies := kept }
  match taken, ids with
  | [], first :: _ => .error ⟨.dependencyNotFound first, diagram⟩
  | _, _ =>
    let removed := taken.map fun entry => entry.2.id
    .ok {
      diagram := diagram
      events := [.dependenciesRemoved removed]
      step := .removeDependencies taken
      writes := removed.map .deleteDependency }

def updateDependencyChange (diagram : Diagram κ) (id : Identifier) (patch : DependencyPatch) :
    Except (Refusal κ) (Change κ) := do
  let before ← orRefuse ⟨.dependencyNotFound id, diagram⟩ (diagram.dependency? id)
  return {
    diagram := { diagram with
      dependencies := updateFirst (fun dependency => dependency.id == id)
        (fun dependency => dependency.apply patch) diagram.dependencies }
    events := [.dependencyUpdated id]
    step := .updateDependency before (before.apply patch)
    writes := [.updateDependency id patch] }

/-- What a mutation does to a diagram, or why it is refused. -/
def change (diagram : Diagram κ) : Mutation κ → Except (Refusal κ) (Change κ)
  | renameDiagram name => .ok (renameChange diagram name)
  | insertTables entries => .ok (insertTablesChange diagram entries)
  | addTables tables =>
    .ok (insertTablesChange diagram (positionedFrom diagram.tables.length tables))
  | removeTables ids => removeTablesChange diagram ids
  | updateTable id patch => updateTableChange diagram id patch
  | setTables tables mode => .ok (setTablesChange diagram tables mode)
  | insertField tableId field position => insertFieldChange diagram tableId field position
  | updateField tableId fieldId patch => updateFieldChange diagram tableId fieldId patch
  | removeField tableId fieldId => removeFieldChange diagram tableId fieldId
  | insertIndex tableId index position => insertIndexChange diagram tableId index position
  | updateIndex tableId indexId patch => updateIndexChange diagram tableId indexId patch
  | removeIndex tableId indexId => removeIndexChange diagram tableId indexId
  | insertRelationships entries => .ok (insertRelationshipsChange diagram entries)
  | addRelationships relationships =>
    .ok (insertRelationshipsChange diagram
      (positionedFrom diagram.relationships.length relationships))
  | removeRelationships ids => removeRelationshipsChange diagram ids
  | updateRelationship id patch => updateRelationshipChange diagram id patch
  | insertDependencies entries => .ok (insertDependenciesChange diagram entries)
  | addDependencies dependencies =>
    .ok (insertDependenciesChange diagram
      (positionedFrom diagram.dependencies.length dependencies))
  | removeDependencies ids => removeDependenciesChange diagram ids
  | updateDependency id patch => updateDependencyChange diagram id patch

end Mutation

end SchemaDiagram
