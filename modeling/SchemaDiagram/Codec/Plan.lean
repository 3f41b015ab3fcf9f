import SchemaDiagram.Codec.Patch
import SchemaDiagram.Plan

/-!
# The JSON form of plans

A plan is a record of its lists of changes; every list may be missing when a plan is read.  Written
plans also say how many changes they hold.
-/

namespace SchemaDiagram

open Json (object? required? optionalOr?)

/-- An update together with the entity it is meant for. -/
def Json.ofTargeted {α : Type} (encode : α → Json) (update : Identifier × α) : Json :=
  .object [("id", update.1.toJson), ("patch", encode update.2)]

/-- Read an update together with the entity it is meant for. -/
def Json.targeted? {α : Type} (decode : Json → Option α) (json : Json) :
    Option (Identifier × α) := do
  let members ← object? json
  return (← required? "id" Identifier.ofJson? members, ← required? "patch" decode members)

namespace Plan

variable {κ : Type} [CoordinateCodec κ]

def toJson (plan : Plan κ) : Json :=
  .object [
    ("deletedTables", Json.ofList Identifier.toJson plan.deletedTables),
    ("updatedTables", Json.ofList (Json.ofTargeted TablePatch.toJson) plan.updatedTables),
    ("createdTables", Json.ofList Table.toJson plan.createdTables),
    ("deletedRelationships", Json.ofList Identifier.toJson plan.deletedRelationships),
    ("updatedRelationships",
      Json.ofList (Json.ofTargeted RelationshipPatch.toJson) plan.updatedRelationships),
    ("createdRelationships", Json.ofList Relationship.toJson plan.createdRelationships),
    ("mutationCount", Json.ofInt plan.size),
    ("isEmpty", .bool plan.isEmpty)]

/-- Read a list of changes that may be missing. -/
def changes? {α : Type} (name : String) (decode : Json → Option α)
    (members : List (String × Json)) : Option (List α) :=
  optionalOr? name [] (Json.list? decode) members

def ofJson? (json : Json) : Option (Plan κ) := do
  let members ← object? json
  return {
    deletedTables := ← changes? "deletedTables" Identifier.ofJson? members
    updatedTables := ← changes? "updatedTables" (Json.targeted? TablePatch.ofJson?) members
    createdTables := ← changes? "createdTables" Table.ofJson? members
    deletedRelationships := ← changes? "deletedRelationships" Identifier.ofJson? members
    updatedRelationships :=
      ← changes? "updatedRelationships" (Json.targeted? RelationshipPatch.ofJson?) members
    createdRelationships := ← changes? "createdRelationships" Relationship.ofJson? members }

end Plan

end SchemaDiagram
