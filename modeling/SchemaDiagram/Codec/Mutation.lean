import SchemaDiagram.Codec.Patch
import SchemaDiagram.Session.Mutation

/-!
# The JSON form of requests

A mutation of a session, or a write to a storage, is asked for by its name and the members of a
request.  An update that is missing from a request changes nothing.
-/

namespace SchemaDiagram

open Json (required? optional? optionalOr?)

variable {κ : Type} [CoordinateCodec κ]

namespace TablesMode

/-- Read a mode from its name. -/
def ofJson? (json : Json) : Option TablesMode :=
  match json with
  | .string "merge" => some .merge
  | .string "override" => some .override
  | _ => none

end TablesMode

/-- The members of a request. -/
abbrev Request := List (String × Json)

namespace Request

/-- An identifier. -/
def id? (request : Request) (name : String) : Option Identifier :=
  required? name Identifier.ofJson? request

/-- The identifiers under `ids`. -/
def ids? (request : Request) : Option (List Identifier) :=
  required? "ids" (Json.list? Identifier.ofJson?) request

/-- The update of a request; a missing one is the empty update. -/
def patch? {α : Type} (request : Request) (decode : Json → Option α) : Option α :=
  decode (((optional? "patch" some request).bind fun patch => patch).getD (.object []))

end Request

namespace Mutation

/-- Read a mutation of tables. -/
def tablesOfRequest? (name : String) (request : Request) : Option (Mutation κ) :=
  match name with
  | "add_table" => (required? "table" Table.ofJson? request).map fun table => .addTables [table]
  | "add_tables" => (required? "tables" (Json.list? Table.ofJson?) request).map .addTables
  | "remove_table" => (request.id? "id").map fun id => .removeTables [id]
  | "remove_tables" => request.ids?.map .removeTables
  | "update_table" => do
    return .updateTable (← request.id? "id") (← request.patch? TablePatch.ofJson?)
  | "update_tables_state" => do
    return .setTables (← required? "tables" (Json.list? Table.ofJson?) request)
      (← optionalOr? "mode" .merge TablesMode.ofJson? request)
  | _ => none

/-- Read a mutation of the fields or indexes of a table. -/
def partsOfRequest? (name : String) (request : Request) : Option (Mutation κ) := do
  let tableId ← request.id? "table"
  match name with
  | "add_field" => return .insertField tableId (← required? "value" Field.ofJson? request) none
  | "update_field" =>
    return .updateField tableId (← request.id? "field") (← request.patch? FieldPatch.ofJson?)
  | "remove_field" => return .removeField tableId (← request.id? "field")
  | "add_index" => return .insertIndex tableId (← required? "value" Index.ofJson? request) none
  | "update_index" =>
    return .updateIndex tableId (← request.id? "index") (← request.patch? IndexPatch.ofJson?)
  | "remove_index" => return .removeIndex tableId (← request.id? "index")
  | _ => none

/-- Read a mutation of relationships or dependencies. -/
def linksOfRequest? (name : String) (request : Request) : Option (Mutation κ) :=
  match name with
  | "add_relationship" =>
    (required? "relationship" Relationship.ofJson? request).map fun relationship =>
      .addRelationships [relationship]
  | "add_relationships" =>
    (required? "relationships" (Json.list? Relationship.ofJson?) request).map .addRelationships
  | "remove_relationship" => (request.id? "id").map fun id => .removeRelationships [id]
  | "remove_relationships" => request.ids?.map .removeRelationships
  | "update_relationship" => do
    return .updateRelationship (← request.id? "id") (← request.patch? RelationshipPatch.ofJson?)
  | "add_dependency" =>
    (required? "dependency" Dependency.ofJson? request).map fun dependency =>
      .addDependencies [dependency]
  | "add_dependencies" =>
    (required? "dependencies" (Json.list? Dependency.ofJson?) request).map .addDependencies
  | "remove_dependency" => (request.id? "id").map fun id => .removeDependencies [id]
  | "remove_dependencies" => request.ids?.map .removeDependencies
  | "update_dependency" => do
    return .updateDependency (← request.id? "id") (← request.patch? DependencyPatch.ofJson?)
  | _ => none

/-- Read a mutation; nothing if the name is unknown or the request is malformed. -/
def ofRequest? (name : String) (request : Request) : Option (Mutation κ) :=
  match name with
  | "update_diagram_name" => (required? "name" Json.string? request).map .renameDiagram
  | _ =>
    (tablesOfRequest? name request).or
      ((partsOfRequest? name request).or (linksOfRequest? name request))

end Mutation

namespace DiagramWrite

/-- Read a write inside a diagram; nothing if the name is unknown or the request is malformed. -/
def ofRequest? (name : String) (request : Request) : Option (DiagramWrite κ) :=
  match name with
  | "update_diagram" => (request.patch? DiagramUpdate.ofJson?).map .updateDiagram
  | "delete_diagram_tables" => some .clearTables
  | "delete_diagram_relationships" => some .clearRelationships
  | "delete_diagram_dependencies" => some .clearDependencies
  | "add_table" => (required? "value" Table.ofJson? request).map .addTable
  | "put_table" => (required? "value" Table.ofJson? request).map .putTable
  | "update_table" => do
    return .updateTable (← request.id? "id") (← request.patch? TablePatch.ofJson?)
  | "delete_table" => (request.id? "id").map .deleteTable
  | "add_relationship" => (required? "value" Relationship.ofJson? request).map .addRelationship
  | "update_relationship" => do
    return .updateRelationship (← request.id? "id") (← request.patch? RelationshipPatch.ofJson?)
  | "delete_relationship" => (request.id? "id").map .deleteRelationship
  | "add_dependency" => (required? "value" Dependency.ofJson? request).map .addDependency
  | "update_dependency" => do
    return .updateDependency (← request.id? "id") (← request.patch? DependencyPatch.ofJson?)
  | "delete_dependency" => (request.id? "id").map .deleteDependency
  | _ => none

end DiagramWrite

end SchemaDiagram
