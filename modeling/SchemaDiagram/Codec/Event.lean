import SchemaDiagram.Codec.Entity
import SchemaDiagram.Event

/-!
# The JSON form of events

An event is a record of its name and its data; the data is an object with named members and, unlike
other records, never an array of them.
-/

namespace SchemaDiagram.Event

open Json (required? members?)

def name : Event → String
  | diagramLoaded .. => "diagram_loaded"
  | diagramCleared .. => "diagram_cleared"
  | diagramDeleted .. => "diagram_deleted"
  | diagramRenamed .. => "diagram_renamed"
  | tablesAdded .. => "tables_added"
  | tablesRemoved .. => "tables_removed"
  | tableUpdated .. => "table_updated"
  | fieldAdded .. => "field_added"
  | fieldUpdated .. => "field_updated"
  | fieldRemoved .. => "field_removed"
  | indexesChanged .. => "indexes_changed"
  | relationshipsAdded .. => "relationships_added"
  | relationshipsRemoved .. => "relationships_removed"
  | relationshipUpdated .. => "relationship_updated"
  | dependenciesAdded .. => "dependencies_added"
  | dependenciesRemoved .. => "dependencies_removed"
  | dependencyUpdated .. => "dependency_updated"
  | focusTable .. => "focus_table"

/-- The members of the data of an event. -/
def data : Event → List (String × Json)
  | diagramLoaded diagramId => [("diagram_id", diagramId.toJson)]
  | diagramCleared diagramId => [("diagram_id", diagramId.toJson)]
  | diagramDeleted diagramId => [("diagram_id", diagramId.toJson)]
  | diagramRenamed name => [("name", .string name)]
  | tablesAdded tableIds => [("table_ids", Json.ofList Identifier.toJson tableIds)]
  | tablesRemoved tableIds => [("table_ids", Json.ofList Identifier.toJson tableIds)]
  | tableUpdated tableId => [("table_id", tableId.toJson)]
  | fieldAdded tableId fieldId => [("table_id", tableId.toJson), ("field_id", fieldId.toJson)]
  | fieldUpdated tableId fieldId => [("table_id", tableId.toJson), ("field_id", fieldId.toJson)]
  | fieldRemoved tableId fieldId => [("table_id", tableId.toJson), ("field_id", fieldId.toJson)]
  | indexesChanged tableId => [("table_id", tableId.toJson)]
  | relationshipsAdded ids => [("relationship_ids", Json.ofList Identifier.toJson ids)]
  | relationshipsRemoved ids => [("relationship_ids", Json.ofList Identifier.toJson ids)]
  | relationshipUpdated id => [("relationship_id", id.toJson)]
  | dependenciesAdded ids => [("dependency_ids", Json.ofList Identifier.toJson ids)]
  | dependenciesRemoved ids => [("dependency_ids", Json.ofList Identifier.toJson ids)]
  | dependencyUpdated id => [("dependency_id", id.toJson)]
  | focusTable tableId => [("table_id", tableId.toJson)]

def toJson (event : Event) : Json :=
  .object [("action", .string event.name), ("data", .object event.data)]

/-- The named members of the data of an event. -/
def dataMembers? (names : List String) (data : Json) : Option (List (String × Json)) := do
  members? names 0 (.object (← data.object?))

/-- Read an identifier from data with a single member. -/
def idOf? (member : String) (data : Json) : Option Identifier :=
  (dataMembers? [member] data).bind (required? member Identifier.ofJson?)

/-- Read identifiers from data with a single member. -/
def idsOf? (member : String) (data : Json) : Option (List Identifier) :=
  (dataMembers? [member] data).bind (required? member (Json.list? Identifier.ofJson?))

/-- Read the data of an event at a field. -/
def fieldOf? (data : Json) : Option (Identifier × Identifier) := do
  let members ← dataMembers? ["table_id", "field_id"] data
  return (← required? "table_id" Identifier.ofJson? members,
    ← required? "field_id" Identifier.ofJson? members)

/-- Read the event of a name from its data. -/
def ofData? (name : String) (data : Json) : Option Event :=
  match name with
  | "diagram_loaded" => (idOf? "diagram_id" data).map diagramLoaded
  | "diagram_cleared" => (idOf? "diagram_id" data).map diagramCleared
  | "diagram_deleted" => (idOf? "diagram_id" data).map diagramDeleted
  | "diagram_renamed" => do
    let members ← dataMembers? ["name"] data
    return diagramRenamed (← required? "name" Json.string? members)
  | "tables_added" => (idsOf? "table_ids" data).map tablesAdded
  | "tables_removed" => (idsOf? "table_ids" data).map tablesRemoved
  | "table_updated" => (idOf? "table_id" data).map tableUpdated
  | "field_added" => (fieldOf? data).map fun ids => fieldAdded ids.1 ids.2
  | "field_updated" => (fieldOf? data).map fun ids => fieldUpdated ids.1 ids.2
  | "field_removed" => (fieldOf? data).map fun ids => fieldRemoved ids.1 ids.2
  | "indexes_changed" => (idOf? "table_id" data).map indexesChanged
  | "relationships_added" => (idsOf? "relationship_ids" data).map relationshipsAdded
  | "relationships_removed" => (idsOf? "relationship_ids" data).map relationshipsRemoved
  | "relationship_updated" => (idOf? "relationship_id" data).map relationshipUpdated
  | "dependencies_added" => (idsOf? "dependency_ids" data).map dependenciesAdded
  | "dependencies_removed" => (idsOf? "dependency_ids" data).map dependenciesRemoved
  | "dependency_updated" => (idOf? "dependency_id" data).map dependencyUpdated
  | "focus_table" => (idOf? "table_id" data).map focusTable
  | _ => none

def ofJson? (json : Json) : Option Event := do
  let members ← members? ["action", "data"] 0 json
  let name ← required? "action" Json.caseName? members
  let data ← members.lookup "data"
  ofData? name data

end SchemaDiagram.Event
