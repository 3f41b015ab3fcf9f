import SchemaDiagram.Proofs.Session.RecordedTables

/-!
# Recorded mutations

Every mutation that a caller may ask for records a step that connects the diagram before it with the
diagram after it, provided that new entities carry identifiers that are not in use.  Only the
private mutations that put entities at given positions are left out: they occur in undoing alone.
-/

namespace SchemaDiagram

variable {κ : Type}

/-! ## What may be asked for -/

namespace Mutation

/-- A caller may ask for a mutation: it puts nothing at a position, the entities that it adds carry
identifiers that are not in use, and no link stands at a table that it adds. -/
def Admissible (diagram : Diagram κ) : Mutation κ → Prop
  | addTables tables =>
    ∀ table ∈ tables, diagram.table? table.id = none ∧ diagram.Unlinked table.id
  | setTables tables .override =>
    ∀ table ∈ tables, diagram.table? table.id = none → diagram.Unlinked table.id
  | insertField tableId field none =>
    ∀ table, diagram.table? tableId = some table → table.field? field.id = none
  | insertIndex tableId index none =>
    ∀ table, diagram.table? tableId = some table → table.index? index.id = none
  | addRelationships relationships =>
    ∀ relationship ∈ relationships, diagram.relationship? relationship.id = none
  | addDependencies dependencies =>
    ∀ dependency ∈ dependencies, diagram.dependency? dependency.id = none
  | insertTables _ | insertRelationships _ | insertDependencies _ => False
  | insertField _ _ (some _) | insertIndex _ _ (some _) => False
  | _ => True

/-! ## Every mutation -/

/-- The step of a mutation that a caller may ask for connects the diagram with what becomes of
it. -/
theorem Admissible.connects {mutation : Mutation κ} {diagram : Diagram κ} {change : Change κ}
    (hadmissible : mutation.Admissible diagram) (h : mutation.change diagram = .ok change) :
    change.step.Connects diagram change.diagram := by
  cases mutation with
  | renameDiagram name =>
      obtain rfl := Except.ok.inj h
      exact .of_leads (.single ⟨_, rfl, rfl⟩) ⟨_, rfl, rfl⟩
  | insertTables entries => exact hadmissible.elim
  | addTables tables =>
      obtain rfl := Except.ok.inj h
      have hconnects := addTables_connects hadmissible
      simpa [insertTablesChange, insertPositioned_positionedFrom_length] using hconnects
  | removeTables ids => exact removeTablesChange_connects h
  | updateTable id patch => exact updateTableChange_connects h
  | setTables tables mode =>
      obtain rfl := Except.ok.inj h
      cases mode with
      | override => exact setTables_connects hadmissible
      | merge =>
          apply setTables_connects
          intro table hmem hnone
          exact absurd hnone (table?_ne_none_of_mem_merge hmem)
  | insertField tableId field position =>
      cases position with
      | none => exact insertFieldChange_connects h hadmissible
      | some position => exact hadmissible.elim
  | updateField tableId fieldId patch => exact updateFieldChange_connects h
  | removeField tableId fieldId => exact removeFieldChange_connects h
  | insertIndex tableId index position =>
      cases position with
      | none => exact insertIndexChange_connects h hadmissible
      | some position => exact hadmissible.elim
  | updateIndex tableId indexId patch => exact updateIndexChange_connects h
  | removeIndex tableId indexId => exact removeIndexChange_connects h
  | insertRelationships entries => exact hadmissible.elim
  | addRelationships relationships =>
      obtain rfl := Except.ok.inj h
      have hconnects := addRelationships_connects hadmissible
      simpa [insertRelationshipsChange, insertPositioned_positionedFrom_length] using hconnects
  | removeRelationships ids => exact removeRelationshipsChange_connects h
  | updateRelationship id patch => exact updateRelationshipChange_connects h
  | insertDependencies entries => exact hadmissible.elim
  | addDependencies dependencies =>
      obtain rfl := Except.ok.inj h
      have hconnects := addDependencies_connects hadmissible
      simpa [insertDependenciesChange, insertPositioned_positionedFrom_length] using hconnects
  | removeDependencies ids => exact removeDependenciesChange_connects h
  | updateDependency id patch => exact updateDependencyChange_connects h

end Mutation

end SchemaDiagram
