import SchemaDiagram.Supply

/-!
# Dependencies

The fact that one table, usually a view, is built from another one, and the partial updates of it.
-/

namespace SchemaDiagram

/-- A table and the table that depends on it. -/
structure Dependency where
  id : Identifier
  tableId : Identifier
  dependentTableId : Identifier
  schema : Option String
  dependentSchema : Option String
  createdAt : Timestamp
  deriving DecidableEq, Repr

/-- An update of a dependency: an attribute is kept where nothing is given.  Both schemas can also
be cleared. -/
structure DependencyPatch where
  tableId : Option Identifier := none
  dependentTableId : Option Identifier := none
  schema : Option (Option String) := none
  dependentSchema : Option (Option String) := none
  deriving DecidableEq, Repr

namespace Dependency

def new (stamp : Stamp) (tableId dependentTableId : Identifier) : Dependency where
  id := stamp.id
  tableId := tableId
  dependentTableId := dependentTableId
  schema := none
  dependentSchema := none
  createdAt := stamp.time

/-- Whether one of the given tables takes part. -/
def touchesAny (dependency : Dependency) (tableIds : List Identifier) : Bool :=
  tableIds.contains dependency.tableId || tableIds.contains dependency.dependentTableId

def apply (dependency : Dependency) (patch : DependencyPatch) : Dependency :=
  { dependency with
    tableId := patch.tableId.getD dependency.tableId
    dependentTableId := patch.dependentTableId.getD dependency.dependentTableId
    schema := patch.schema.getD dependency.schema
    dependentSchema := patch.dependentSchema.getD dependency.dependentSchema }

end Dependency

/-- The update that copies every attribute of a dependency. -/
def DependencyPatch.replaceWith (dependency : Dependency) : DependencyPatch where
  tableId := some dependency.tableId
  dependentTableId := some dependency.dependentTableId
  schema := some dependency.schema
  dependentSchema := some dependency.dependentSchema

end SchemaDiagram
