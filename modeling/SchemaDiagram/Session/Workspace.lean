import SchemaDiagram.Reconciliation
import SchemaDiagram.SchemaText.Parser
import SchemaDiagram.Session.Replay
import SchemaDiagram.Session.Schemas

/-!
# Workspaces

A workspace is a session together with the storage it writes to.  Operations change the session
first and then issue their writes; a failing write is reported and leaves the session as it is.
-/

namespace SchemaDiagram

/-- A session and its storage. -/
structure Workspace (σ κ : Type) where
  session : Session κ
  storage : σ

/-- What an operation answers, and the workspace after it. -/
abbrev Answer (σ κ α : Type) := Except SessionError α × Workspace σ κ

namespace Workspace

variable {σ κ : Type} [Storage σ κ]

def withSession (workspace : Workspace σ κ) (session : Session κ) : Workspace σ κ :=
  { workspace with session := session }

def writeAll (workspace : Workspace σ κ) (writes : List (Write κ)) : Answer σ κ Unit :=
  let (result, storage) := Storage.writeAll workspace.storage writes
  (result.mapError .storage, { workspace with storage := storage })

/-- Carry out a mutation and write what it changes. -/
def perform (workspace : Workspace σ κ) (mutation : Mutation κ) (record : Bool) :
    Answer σ κ Unit :=
  match workspace.session.mutate mutation record with
  | (.error error, session) => (.error error, workspace.withSession session)
  | (.ok writes, session) => (workspace.withSession session).writeAll writes

/-- Run operations one after another, whether or not some of them fail, and report the first
failure. -/
def runAll (workspace : Workspace σ κ) :
    List (Workspace σ κ → Answer σ κ Unit) → Answer σ κ Unit
  | [] => (.ok (), workspace)
  | operation :: rest =>
    let (result, workspace) := operation workspace
    let (others, workspace) := runAll workspace rest
    (firstError result others, workspace)

/-- Carry out mutations without recording them, up to the first failure. -/
def performUntilError (workspace : Workspace σ κ) : List (Mutation κ) → Answer σ κ Unit
  | [] => (.ok (), workspace)
  | mutation :: rest =>
    match workspace.perform mutation false with
    | (.error error, workspace) => (.error error, workspace)
    | (.ok _, workspace) => performUntilError workspace rest

/-! ## Diagrams -/

def listDiagrams (workspace : Workspace σ κ) : Except SessionError (List DiagramSummary) :=
  (Storage.listDiagrams workspace.storage).mapError .storage

/-- Store a new diagram and load it. -/
def createDiagram (workspace : Workspace σ κ) (name : String) (dialect : Option Dialect) :
    Answer σ κ (Diagram κ) :=
  let session := workspace.session
  let diagram := Diagram.new (session.supply.get 0) name (dialect.getD session.defaultDialect)
  match (workspace.withSession (session.draw 1)).writeAll [.addDiagram diagram] with
  | (.error error, workspace) => (.error error, workspace)
  | (.ok _, workspace) =>
    (.ok diagram, workspace.withSession (workspace.session.load diagram))

def loadDiagram (workspace : Workspace σ κ) (id : Identifier) : Answer σ κ (Diagram κ) :=
  match Storage.getDiagram workspace.storage id with
  | .error error => (.error (.storage error), workspace)
  | .ok diagram => (.ok diagram, workspace.withSession (workspace.session.load diagram))

/-- Change the dialect of the diagram.  This is neither announced nor recorded. -/
def setDialect (workspace : Workspace σ κ) (dialect : Dialect) : Answer σ κ Unit :=
  match workspace.session.diagram? with
  | none => (.error .noDiagramLoaded, workspace)
  | some diagram =>
    let session := { workspace.session with
      diagram? := some { diagram with dialect := dialect } }
    (workspace.withSession session).writeAll
      [.within diagram.id (.updateDiagram { dialect := some dialect })]

/-- Remove all entities of the diagram; the history starts anew. -/
def clearDiagram (workspace : Workspace σ κ) : Answer σ κ Unit :=
  match workspace.session.diagram? with
  | none => (.error .noDiagramLoaded, workspace)
  | some diagram =>
    let now := (workspace.session.supply.get 0).time
    let session := { workspace.session.draw 1 with
      diagram? := some { diagram with
        tables := [], relationships := [], dependencies := [], updatedAt := now }
      history := History.empty }
    (workspace.withSession (session.emit [.diagramCleared diagram.id])).writeAll
      (([.updateDiagram { updatedAt := some now }, .clearTables, .clearRelationships,
        .clearDependencies] : List (DiagramWrite κ)).map (.within diagram.id))

/-- Unload the diagram and delete it from the storage, its entities first. -/
def deleteDiagram (workspace : Workspace σ κ) : Answer σ κ Unit :=
  let unloaded := { workspace.session with diagram? := none }
  match workspace.session.diagram? with
  | none => (.error .noDiagramLoaded, workspace.withSession unloaded)
  | some diagram =>
    let session := { unloaded with history := History.empty, schemaFilter := none }
    let emptied := (workspace.withSession (session.emit [.diagramDeleted diagram.id])).writeAll
      (([.clearTables, .clearRelationships, .clearDependencies] : List (DiagramWrite κ)).map
        (.within diagram.id))
    match emptied with
    | (.error error, workspace) => (.error error, workspace)
    | (.ok _, workspace) => workspace.writeAll [.deleteDiagram diagram.id]

/-! ## Plans -/

/-- Find places for new tables among the visible ones, and ask to look at each of them. -/
def placeTables [Coordinate κ] (ids : List Identifier) (record : Bool)
    (workspace : Workspace σ κ) : Answer σ κ Unit :=
  let session := workspace.session
  let positions := Layout.place session.layout session.visibleTables session.relationships ids
  workspace.runAll <| positions.map fun position workspace =>
    let (result, workspace) := workspace.perform
      (.updateTable position.tableId { position := some (position.x, position.y) }) record
    (result, workspace.withSession (workspace.session.emit [.focusTable position.tableId]))

/-- The operations of a plan in order: first the tables, then the relationships. -/
def planOperations [Coordinate κ] (plan : Plan κ) (record : Bool) :
    List (Workspace σ κ → Answer σ κ Unit) :=
  (if plan.deletedTables.isEmpty then []
    else [fun workspace => workspace.perform (.removeTables plan.deletedTables) record]) ++
  (plan.updatedTables.map fun update (workspace : Workspace σ κ) =>
    workspace.perform (.updateTable update.1 update.2) record) ++
  (if plan.createdTables.isEmpty then []
    else [fun workspace => workspace.perform (.addTables plan.createdTables) record,
      placeTables (plan.createdTables.map Table.id) record]) ++
  (if plan.deletedRelationships.isEmpty then []
    else [fun workspace =>
      workspace.perform (.removeRelationships plan.deletedRelationships) record]) ++
  (plan.updatedRelationships.map fun update (workspace : Workspace σ κ) =>
    workspace.perform (.updateRelationship update.1 update.2) record) ++
  (if plan.createdRelationships.isEmpty then []
    else [fun workspace =>
      workspace.perform (.addRelationships plan.createdRelationships) record])

def mapHistory (workspace : Workspace σ κ) (change : History (Step κ) → History (Step κ)) :
    Workspace σ κ :=
  workspace.withSession
    { workspace.session with history := change workspace.session.history }

/-- Carry out a plan.  With history, all of it is one command. -/
def applyPlan [Coordinate κ] (workspace : Workspace σ κ) (plan : Plan κ) (record : Bool) :
    Answer σ κ Unit :=
  if workspace.session.diagram?.isNone then (.error .noDiagramLoaded, workspace)
  else if plan.isEmpty then (.ok (), workspace)
  else if record then
    let (result, workspace) :=
      (workspace.mapHistory History.beginGroup).runAll (planOperations plan true)
    (result, workspace.mapHistory History.endGroup)
  else workspace.runAll (planOperations plan false)

/-- The plan that makes the diagram converge on a schema text, and the session with the stamps for
it used up. -/
def planFor [Coordinate κ] (session : Session κ) (text : String) : Plan κ × Session κ :=
  let schema := SchemaText.parse session.dialect text
  (Reconciliation.reconcile session.supply schema session.tables session.relationships,
    session.draw (Reconciliation.stamps schema))

/-- Make the diagram converge on a schema text, as one command. -/
def applyText [Coordinate κ] (workspace : Workspace σ κ) (text : String) :
    Answer σ κ (Plan κ) :=
  if workspace.session.diagram?.isNone then (.error .noDiagramLoaded, workspace)
  else
    let (plan, session) := planFor workspace.session text
    let (result, workspace) := (workspace.withSession session).applyPlan plan true
    (result.map fun _ => plan, workspace)

/-! ## Undo and redo -/

/-- Set the time of the last update back to an earlier or later one. -/
def restoreUpdatedAt (workspace : Workspace σ κ) (time : Timestamp) : Answer σ κ Unit :=
  match workspace.session.diagram? with
  | none => (.error .noDiagramLoaded, workspace)
  | some diagram =>
    let session := { workspace.session with
      diagram? := some { diagram with updatedAt := time } }
    (workspace.withSession session).writeAll
      [.within diagram.id (.updateDiagram { updatedAt := some time })]

/-- Undo the steps of an action, the last one first. -/
def undoSteps (workspace : Workspace σ κ) (action : Action (Step κ)) : Answer σ κ Unit :=
  workspace.runAll (action.steps.reverse.map fun step workspace =>
    workspace.performUntilError step.undo)

/-- Redo the steps of an action in order. -/
def redoSteps (workspace : Workspace σ κ) (action : Action (Step κ)) : Answer σ κ Unit :=
  workspace.runAll (action.steps.map fun step workspace => workspace.perform step.redo false)

/-- Undo the last command.  It can be redone afterwards, also when undoing it failed.  The answer
tells whether there was a command. -/
def undo (workspace : Workspace σ κ) : Answer σ κ Bool :=
  match workspace.session.history.popUndo? with
  | none => (.ok false, workspace)
  | some (command, history) =>
    let (replayed, workspace) := (workspace.mapHistory fun _ => history).undoSteps command.action
    let (restored, workspace) := workspace.restoreUpdatedAt command.undoUpdatedAt
    ((firstError replayed restored).map fun _ => true,
      workspace.mapHistory fun history => history.pushRedo command)

/-- Redo the command undone last.  It can be undone afterwards, also when redoing it failed.  The
answer tells whether there was a command. -/
def redo (workspace : Workspace σ κ) : Answer σ κ Bool :=
  match workspace.session.history.popRedo? with
  | none => (.ok false, workspace)
  | some (command, history) =>
    let (replayed, workspace) := (workspace.mapHistory fun _ => history).redoSteps command.action
    let (restored, workspace) := workspace.restoreUpdatedAt command.redoUpdatedAt
    ((firstError replayed restored).map fun _ => true,
      workspace.mapHistory fun history => history.pushUndo command)

end Workspace

end SchemaDiagram
