import SchemaDiagram.Identifier

/-!
# Events

What a session announces to those who show or store a diagram.
-/

namespace SchemaDiagram

/-- A change of a diagram, or a wish to look at a table. -/
inductive Event where
  | diagramLoaded (diagramId : Identifier)
  | diagramCleared (diagramId : Identifier)
  | diagramDeleted (diagramId : Identifier)
  | diagramRenamed (name : String)
  | tablesAdded (tableIds : List Identifier)
  | tablesRemoved (tableIds : List Identifier)
  | tableUpdated (tableId : Identifier)
  | fieldAdded (tableId fieldId : Identifier)
  | fieldUpdated (tableId fieldId : Identifier)
  | fieldRemoved (tableId fieldId : Identifier)
  | indexesChanged (tableId : Identifier)
  | relationshipsAdded (relationshipIds : List Identifier)
  | relationshipsRemoved (relationshipIds : List Identifier)
  | relationshipUpdated (relationshipId : Identifier)
  | dependenciesAdded (dependencyIds : List Identifier)
  | dependenciesRemoved (dependencyIds : List Identifier)
  | dependencyUpdated (dependencyId : Identifier)
  | focusTable (tableId : Identifier)
  deriving DecidableEq, Repr

end SchemaDiagram
