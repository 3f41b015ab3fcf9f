import SchemaDiagram.Model.Diagram

/-!
# Plans

The changes that bring a model in line with a schema text.  Deleting a table takes the relationships
and dependencies at it along; a created table still has to be given a place.
-/

namespace SchemaDiagram

/-- The changes to a model, kind by kind. -/
structure Plan (κ : Type) where
  deletedTables : List Identifier := []
  updatedTables : List (Identifier × TablePatch κ) := []
  createdTables : List (Table κ) := []
  deletedRelationships : List Identifier := []
  updatedRelationships : List (Identifier × RelationshipPatch) := []
  createdRelationships : List Relationship := []

namespace Plan

variable {κ : Type}

def size (plan : Plan κ) : Nat :=
  plan.deletedTables.length + plan.updatedTables.length + plan.createdTables.length +
    plan.deletedRelationships.length + plan.updatedRelationships.length +
    plan.createdRelationships.length

def isEmpty (plan : Plan κ) : Bool :=
  plan.size == 0

end Plan

end SchemaDiagram
