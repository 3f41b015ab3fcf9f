import SchemaDiagram.History
import SchemaDiagram.Session.Mutation

/-!
# Undoing and redoing steps

Which mutations take a step back, and which one takes it again.  Undoing a removal puts the tables
back first and then the links that went with them.
-/

namespace SchemaDiagram

variable {κ : Type}

/-- The mutations that put detached links back at their positions. -/
def DetachedLinks.restore (links : DetachedLinks) : List (Mutation κ) :=
  (if links.relationships.isEmpty then [] else [.insertRelationships links.relationships]) ++
    if links.dependencies.isEmpty then [] else [.insertDependencies links.dependencies]

namespace Step

/-- The mutations that undo a step, in order. -/
def undo : Step κ → List (Mutation κ)
  | renameDiagram before _ => [.renameDiagram before]
  | addTables tables => [.removeTables (tables.map Table.id)]
  | removeTables tables links => .insertTables tables :: links.restore
  | updateTable before _ => [.updateTable before.id (TablePatch.replaceWith before)]
  | setTables before _ links => .setTables before .override :: links.restore
  | addField tableId field => [.removeField tableId field.id]
  | removeField tableId field position => [.insertField tableId field (some position)]
  | updateField tableId before _ =>
    [.updateField tableId before.id (FieldPatch.replaceWith before)]
  | addIndex tableId index => [.removeIndex tableId index.id]
  | removeIndex tableId index position => [.insertIndex tableId index (some position)]
  | updateIndex tableId before _ =>
    [.updateIndex tableId before.id (IndexPatch.replaceWith before)]
  | addRelationships relationships =>
    [.removeRelationships (relationships.map Relationship.id)]
  | removeRelationships entries => [.insertRelationships entries]
  | updateRelationship before _ =>
    [.updateRelationship before.id (RelationshipPatch.replaceWith before)]
  | addDependencies dependencies => [.removeDependencies (dependencies.map Dependency.id)]
  | removeDependencies entries => [.insertDependencies entries]
  | updateDependency before _ =>
    [.updateDependency before.id (DependencyPatch.replaceWith before)]

/-- The mutation that redoes a step. -/
def redo : Step κ → Mutation κ
  | renameDiagram _ after => .renameDiagram after
  | addTables tables => .addTables tables
  | removeTables tables _ => .removeTables (tables.map fun entry => entry.2.id)
  | updateTable _ after => .updateTable after.id (TablePatch.replaceWith after)
  | setTables _ after _ => .setTables after .override
  | addField tableId field => .insertField tableId field none
  | removeField tableId field _ => .removeField tableId field.id
  | updateField tableId _ after => .updateField tableId after.id (FieldPatch.replaceWith after)
  | addIndex tableId index => .insertIndex tableId index none
  | removeIndex tableId index _ => .removeIndex tableId index.id
  | updateIndex tableId _ after => .updateIndex tableId after.id (IndexPatch.replaceWith after)
  | addRelationships relationships => .addRelationships relationships
  | removeRelationships entries => .removeRelationships (entries.map fun entry => entry.2.id)
  | updateRelationship _ after =>
    .updateRelationship after.id (RelationshipPatch.replaceWith after)
  | addDependencies dependencies => .addDependencies dependencies
  | removeDependencies entries => .removeDependencies (entries.map fun entry => entry.2.id)
  | updateDependency _ after =>
    .updateDependency after.id (DependencyPatch.replaceWith after)

end Step

inductive StepKind where
  | renameDiagram
  | addTables
  | removeTables
  | updateTable
  | setTables
  | addField
  | removeField
  | updateField
  | addIndex
  | removeIndex
  | updateIndex
  | addRelationships
  | removeRelationships
  | updateRelationship
  | addDependencies
  | removeDependencies
  | updateDependency
  deriving DecidableEq, Repr

namespace StepKind

def all : List StepKind := [
  renameDiagram, addTables, removeTables, updateTable, setTables, addField, removeField,
  updateField, addIndex, removeIndex, updateIndex, addRelationships, removeRelationships,
  updateRelationship, addDependencies, removeDependencies, updateDependency]

/-- The tag that a kind of step is known by. -/
def tag : StepKind → String
  | renameDiagram => "updateDiagramName"
  | addTables => "addTables"
  | removeTables => "removeTables"
  | updateTable => "updateTable"
  | setTables => "updateTablesState"
  | addField => "addField"
  | removeField => "removeField"
  | updateField => "updateField"
  | addIndex => "addIndex"
  | removeIndex => "removeIndex"
  | updateIndex => "updateIndex"
  | addRelationships => "addRelationships"
  | removeRelationships => "removeRelationships"
  | updateRelationship => "updateRelationship"
  | addDependencies => "addDependencies"
  | removeDependencies => "removeDependencies"
  | updateDependency => "updateDependency"

end StepKind

def Step.kind : Step κ → StepKind
  | renameDiagram .. => .renameDiagram
  | addTables .. => .addTables
  | removeTables .. => .removeTables
  | updateTable .. => .updateTable
  | setTables .. => .setTables
  | addField .. => .addField
  | removeField .. => .removeField
  | updateField .. => .updateField
  | addIndex .. => .addIndex
  | removeIndex .. => .removeIndex
  | updateIndex .. => .updateIndex
  | addRelationships .. => .addRelationships
  | removeRelationships .. => .removeRelationships
  | updateRelationship .. => .updateRelationship
  | addDependencies .. => .addDependencies
  | removeDependencies .. => .removeDependencies
  | updateDependency .. => .updateDependency

/-- The tag of an action: that of its step, or `batch`. -/
def Action.tag : Action StepKind → String
  | .step kind => kind.tag
  | .batch _ => "batch"

end SchemaDiagram
