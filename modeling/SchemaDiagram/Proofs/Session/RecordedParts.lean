import SchemaDiagram.Proofs.Session.Parts
import SchemaDiagram.Proofs.Session.Refusal

/-!
# Recorded changes of links, fields and indexes

Mutations of relationships, dependencies, fields and indexes record steps that connect the diagram
before them with the diagram after them, provided that a new part carries an identifier that is not
in use.
-/

namespace SchemaDiagram

variable {κ : Type}

/-! ## Copying attributes -/

@[simp] theorem Table.id_apply (table : Table κ) (patch : TablePatch κ) :
    (table.apply patch).id = table.id := rfl

@[simp] theorem Field.id_apply (field : Field) (patch : FieldPatch) :
    (field.apply patch).id = field.id := rfl

@[simp] theorem Index.id_apply (index : Index) (patch : IndexPatch) :
    (index.apply patch).id = index.id := rfl

@[simp] theorem Relationship.id_apply (relationship : Relationship) (patch : RelationshipPatch) :
    (relationship.apply patch).id = relationship.id := rfl

@[simp] theorem Dependency.id_apply (dependency : Dependency) (patch : DependencyPatch) :
    (dependency.apply patch).id = dependency.id := rfl

/-- An update never touches identity, so copying the updated entity onto the old one, and the old
one onto the updated entity, restores the copied one. -/
theorem Table.apply_replaceWith (table : Table κ) (patch : TablePatch κ) :
    table.apply (.replaceWith (table.apply patch)) = table.apply patch ∧
      (table.apply patch).apply (.replaceWith table) = table := ⟨rfl, rfl⟩

theorem Field.apply_replaceWith (field : Field) (patch : FieldPatch) :
    field.apply (.replaceWith (field.apply patch)) = field.apply patch ∧
      (field.apply patch).apply (.replaceWith field) = field := ⟨rfl, rfl⟩

theorem Index.apply_replaceWith (index : Index) (patch : IndexPatch) :
    index.apply (.replaceWith (index.apply patch)) = index.apply patch ∧
      (index.apply patch).apply (.replaceWith index) = index := ⟨rfl, rfl⟩

theorem Relationship.apply_replaceWith (relationship : Relationship)
    (patch : RelationshipPatch) :
    relationship.apply (.replaceWith (relationship.apply patch)) = relationship.apply patch ∧
      (relationship.apply patch).apply (.replaceWith relationship) = relationship := ⟨rfl, rfl⟩

theorem Dependency.apply_replaceWith (dependency : Dependency) (patch : DependencyPatch) :
    dependency.apply (.replaceWith (dependency.apply patch)) = dependency.apply patch ∧
      (dependency.apply patch).apply (.replaceWith dependency) = dependency := ⟨rfl, rfl⟩

namespace Mutation

/-! ## Relationships -/

def withRelationships (diagram : Diagram κ) (relationships : List Relationship) : Diagram κ :=
  { diagram with relationships := relationships }

theorem updateRelationship_leads {diagram : Diagram κ} {id : Identifier}
    {relationship : Relationship} (hfind : diagram.relationship? id = some relationship)
    (patch : RelationshipPatch) :
    (updateRelationship id patch).Leads diagram
      { diagram with
        relationships := updateFirst (fun relationship => relationship.id == id)
          (fun relationship => relationship.apply patch) diagram.relationships } := by
  have hchange : updateRelationshipChange diagram id patch = .ok _ :=
    orRefuse_bind_eq_ok_iff.mpr ⟨relationship, hfind, rfl⟩
  exact ⟨_, hchange, rfl⟩

theorem updateRelationshipChange_connects {diagram : Diagram κ} {id : Identifier}
    {patch : RelationshipPatch} {change : Change κ}
    (h : updateRelationshipChange diagram id patch = .ok change) :
    change.step.Connects diagram change.diagram := by
  obtain ⟨before, hfind, hchange⟩ := orRefuse_bind_eq_ok_iff.mp h
  obtain rfl := Except.ok.inj hchange
  obtain rfl : before.id = id := key_of_find? hfind
  have hleads : ∀ (relationships : List Relationship) relationship patch,
      relationships.find? (fun other => other.id == relationship.id) = some relationship →
        (updateRelationship relationship.id patch).Leads (withRelationships diagram relationships)
          (withRelationships diagram (updateFirst (fun other => other.id == relationship.id)
            (fun other => other.apply patch) relationships)) := by
    intro relationships relationship patch hfound
    have hafter : (withRelationships diagram relationships).relationship? relationship.id =
        some relationship := hfound
    exact updateRelationship_leads hafter patch
  exact .of_update hleads Relationship.id_apply Relationship.apply_replaceWith hfind patch rfl rfl

theorem insertRelationshipsChange_append_diagram (diagram : Diagram κ)
    (relationships : List Relationship) :
    (insertRelationshipsChange diagram
      (positionedFrom diagram.relationships.length relationships)).diagram =
      { diagram with relationships := diagram.relationships ++ relationships } := by
  simp only [insertRelationshipsChange, insertPositioned_positionedFrom_length]

theorem addRelationships_leads (diagram : Diagram κ) (relationships : List Relationship) :
    (addRelationships relationships).Leads diagram
      { diagram with relationships := diagram.relationships ++ relationships } :=
  ⟨_, rfl, insertRelationshipsChange_append_diagram diagram relationships⟩

/-- Removing relationships is refused only if some are asked for and none of them is there. -/
theorem removeRelationships_leads (diagram : Diagram κ) (ids : List Identifier)
    (h : ids ≠ [] → (takePositioned (fun relationship => ids.contains relationship.id)
      diagram.relationships).1 ≠ []) :
    (removeRelationships ids).Leads diagram
      { diagram with
        relationships := (takePositioned (fun relationship => ids.contains relationship.id)
          diagram.relationships).2 } := by
  simp only [Leads, change, removeRelationshipsChange]
  split
  · next first rest hnone => exact absurd hnone (h (List.cons_ne_nil first rest))
  · exact ⟨_, rfl, rfl⟩

theorem removeRelationshipsChange_eq_ok {diagram : Diagram κ} {ids : List Identifier}
    {change : Change κ} (h : removeRelationshipsChange diagram ids = .ok change) :
    change.diagram = { diagram with
      relationships := (takePositioned (fun relationship => ids.contains relationship.id)
        diagram.relationships).2 } ∧
      change.step = .removeRelationships (takePositioned
        (fun relationship => ids.contains relationship.id) diagram.relationships).1 := by
  simp only [removeRelationshipsChange] at h
  split at h
  · simp at h
  · obtain rfl := Except.ok.inj h
    exact ⟨rfl, rfl⟩

theorem addRelationships_connects {diagram : Diagram κ} {relationships : List Relationship}
    (h : ∀ relationship ∈ relationships, diagram.relationship? relationship.id = none) :
    (Step.addRelationships relationships).Connects diagram
      { diagram with relationships := diagram.relationships ++ relationships } := by
  have hconnects : (Step.addRelationships relationships).Connects
      (withRelationships diagram diagram.relationships)
      (withRelationships diagram (diagram.relationships ++ relationships)) :=
    .of_appendAll (fun items => addRelationships_leads (withRelationships diagram items))
      (fun items => removeRelationships_leads (withRelationships diagram items)) h rfl rfl
  exact hconnects

theorem removeRelationshipsChange_connects {diagram : Diagram κ} {ids : List Identifier}
    {change : Change κ} (h : removeRelationshipsChange diagram ids = .ok change) :
    change.step.Connects diagram change.diagram := by
  obtain ⟨hdiagram, hstep⟩ := removeRelationshipsChange_eq_ok h
  rw [hdiagram, hstep]
  have hinsert : ∀ items entries, (insertRelationships entries).Leads
      (withRelationships diagram items)
      (withRelationships diagram (insertPositioned items entries)) := fun _ _ => ⟨_, rfl, rfl⟩
  have hremove := fun items => removeRelationships_leads (withRelationships diagram items)
  exact .of_removeAll hinsert hremove rfl rfl

/-! ## Dependencies -/

def withDependencies (diagram : Diagram κ) (dependencies : List Dependency) : Diagram κ :=
  { diagram with dependencies := dependencies }

theorem updateDependency_leads {diagram : Diagram κ} {id : Identifier}
    {dependency : Dependency} (hfind : diagram.dependency? id = some dependency)
    (patch : DependencyPatch) :
    (updateDependency id patch).Leads diagram
      { diagram with
        dependencies := updateFirst (fun dependency => dependency.id == id)
          (fun dependency => dependency.apply patch) diagram.dependencies } := by
  have hchange : updateDependencyChange diagram id patch = .ok _ :=
    orRefuse_bind_eq_ok_iff.mpr ⟨dependency, hfind, rfl⟩
  exact ⟨_, hchange, rfl⟩

theorem updateDependencyChange_connects {diagram : Diagram κ} {id : Identifier}
    {patch : DependencyPatch} {change : Change κ}
    (h : updateDependencyChange diagram id patch = .ok change) :
    change.step.Connects diagram change.diagram := by
  obtain ⟨before, hfind, hchange⟩ := orRefuse_bind_eq_ok_iff.mp h
  obtain rfl := Except.ok.inj hchange
  obtain rfl : before.id = id := key_of_find? hfind
  have hleads : ∀ (dependencies : List Dependency) dependency patch,
      dependencies.find? (fun other => other.id == dependency.id) = some dependency →
        (updateDependency dependency.id patch).Leads (withDependencies diagram dependencies)
          (withDependencies diagram (updateFirst (fun other => other.id == dependency.id)
            (fun other => other.apply patch) dependencies)) := by
    intro dependencies dependency patch hfound
    have hafter : (withDependencies diagram dependencies).dependency? dependency.id =
        some dependency := hfound
    exact updateDependency_leads hafter patch
  exact .of_update hleads Dependency.id_apply Dependency.apply_replaceWith hfind patch rfl rfl

theorem insertDependenciesChange_append_diagram (diagram : Diagram κ)
    (dependencies : List Dependency) :
    (insertDependenciesChange diagram
      (positionedFrom diagram.dependencies.length dependencies)).diagram =
      { diagram with dependencies := diagram.dependencies ++ dependencies } := by
  simp only [insertDependenciesChange, insertPositioned_positionedFrom_length]

theorem addDependencies_leads (diagram : Diagram κ) (dependencies : List Dependency) :
    (addDependencies dependencies).Leads diagram
      { diagram with dependencies := diagram.dependencies ++ dependencies } :=
  ⟨_, rfl, insertDependenciesChange_append_diagram diagram dependencies⟩

theorem removeDependencies_leads (diagram : Diagram κ) (ids : List Identifier)
    (h : ids ≠ [] → (takePositioned (fun dependency => ids.contains dependency.id)
      diagram.dependencies).1 ≠ []) :
    (removeDependencies ids).Leads diagram
      { diagram with
        dependencies := (takePositioned (fun dependency => ids.contains dependency.id)
          diagram.dependencies).2 } := by
  simp only [Leads, change, removeDependenciesChange]
  split
  · next first rest hnone => exact absurd hnone (h (List.cons_ne_nil first rest))
  · exact ⟨_, rfl, rfl⟩

theorem removeDependenciesChange_eq_ok {diagram : Diagram κ} {ids : List Identifier}
    {change : Change κ} (h : removeDependenciesChange diagram ids = .ok change) :
    change.diagram = { diagram with
      dependencies := (takePositioned (fun dependency => ids.contains dependency.id)
        diagram.dependencies).2 } ∧
      change.step = .removeDependencies (takePositioned
        (fun dependency => ids.contains dependency.id) diagram.dependencies).1 := by
  simp only [removeDependenciesChange] at h
  split at h
  · simp at h
  · obtain rfl := Except.ok.inj h
    exact ⟨rfl, rfl⟩

theorem addDependencies_connects {diagram : Diagram κ} {dependencies : List Dependency}
    (h : ∀ dependency ∈ dependencies, diagram.dependency? dependency.id = none) :
    (Step.addDependencies dependencies).Connects diagram
      { diagram with dependencies := diagram.dependencies ++ dependencies } := by
  have hconnects : (Step.addDependencies dependencies).Connects
      (withDependencies diagram diagram.dependencies)
      (withDependencies diagram (diagram.dependencies ++ dependencies)) :=
    .of_appendAll (fun items => addDependencies_leads (withDependencies diagram items))
      (fun items => removeDependencies_leads (withDependencies diagram items)) h rfl rfl
  exact hconnects

theorem removeDependenciesChange_connects {diagram : Diagram κ} {ids : List Identifier}
    {change : Change κ} (h : removeDependenciesChange diagram ids = .ok change) :
    change.step.Connects diagram change.diagram := by
  obtain ⟨hdiagram, hstep⟩ := removeDependenciesChange_eq_ok h
  rw [hdiagram, hstep]
  have hinsert : ∀ items entries, (insertDependencies entries).Leads
      (withDependencies diagram items)
      (withDependencies diagram (insertPositioned items entries)) := fun _ _ => ⟨_, rfl, rfl⟩
  have hremove := fun items => removeDependencies_leads (withDependencies diagram items)
  exact .of_removeAll hinsert hremove rfl rfl

/-! ## Changing a table in place -/

/-- A diagram in which the first table with an identifier is changed. -/
def changeTable (diagram : Diagram κ) (tableId : Identifier) (change : Table κ → Table κ) :
    Diagram κ :=
  { diagram with
    tables := updateFirst (fun table => table.id == tableId) change diagram.tables }

variable {diagram : Diagram κ} {tableId : Identifier} {table : Table κ}
  {change again : Table κ → Table κ}

theorem changeTable_table? (hfind : diagram.table? tableId = some table)
    (hid : (change table).id = table.id) :
    (changeTable diagram tableId change).table? tableId = some (change table) := by
  have htable : table.id = tableId := key_of_find? hfind
  exact find?_updateFirst hfind (by simp [hid, htable])

theorem changeTable_self (hfind : diagram.table? tableId = some table)
    (hsame : change table = table) : changeTable diagram tableId change = diagram := by
  have htables : updateFirst (fun table => table.id == tableId) change diagram.tables =
      diagram.tables := updateFirst_eq_self hfind hsame
  rw [changeTable, htables]

theorem changeTable_changeTable (hfind : diagram.table? tableId = some table)
    (hid : (change table).id = table.id) :
    changeTable (changeTable diagram tableId change) tableId again =
      changeTable diagram tableId fun table => again (change table) := by
  have htable : table.id = tableId := key_of_find? hfind
  have htables : updateFirst (fun table => table.id == tableId) again
      (updateFirst (fun table => table.id == tableId) change diagram.tables) =
      updateFirst (fun table => table.id == tableId) (fun table => again (change table))
        diagram.tables := updateFirst_updateFirst hfind (by simp [hid, htable])
  simp only [changeTable, htables]

/-! ## Fields of a table -/

/-- A diagram in which the first table with an identifier has other fields. -/
def withFields (diagram : Diagram κ) (tableId : Identifier) (fields : List Field) : Diagram κ :=
  changeTable diagram tableId fun table => { table with fields := fields }

section Fields

variable (hfind : diagram.table? tableId = some table)

include hfind

theorem withFields_self : withFields diagram tableId table.fields = diagram :=
  changeTable_self hfind rfl

theorem insertField_leads (fields : List Field) (field : Field) (position : Option Nat) :
    (insertField tableId field position).Leads (withFields diagram tableId fields)
      (withFields diagram tableId
        (insertClamped fields (position.getD fields.length) field)) :=
  ⟨_, orRefuse_bind_eq_ok_iff.mpr ⟨_, changeTable_table? hfind rfl, rfl⟩,
    changeTable_changeTable hfind rfl⟩

theorem updateField_leads (fields : List Field) (field : Field) (patch : FieldPatch)
    (hfield : fields.find? (fun other => other.id == field.id) = some field) :
    (updateField tableId field.id patch).Leads (withFields diagram tableId fields)
      (withFields diagram tableId (updateFirst (fun other => other.id == field.id)
        (fun other => other.apply patch) fields)) :=
  ⟨_, orRefuse_bind_eq_ok_iff.mpr ⟨_, changeTable_table? hfind rfl,
    orRefuse_bind_eq_ok_iff.mpr ⟨field, hfield, rfl⟩⟩, changeTable_changeTable hfind rfl⟩

theorem removeField_leads (fields : List Field) (field : Field)
    (hfield : fields.find? (fun other => other.id == field.id) = some field) :
    (removeField tableId field.id).Leads (withFields diagram tableId fields)
      (withFields diagram tableId
        (fields.eraseIdx (fields.findIdx fun other => other.id == field.id))) :=
  ⟨_, orRefuse_bind_eq_ok_iff.mpr ⟨_, changeTable_table? hfind rfl,
    orRefuse_bind_eq_ok_iff.mpr ⟨field, hfield, rfl⟩⟩, changeTable_changeTable hfind rfl⟩

end Fields

theorem insertFieldChange_connects {field : Field} {change : Change κ}
    (h : insertFieldChange diagram tableId field none = .ok change)
    (hnew : ∀ table, diagram.table? tableId = some table → table.field? field.id = none) :
    change.step.Connects diagram change.diagram := by
  obtain ⟨table, hfind, hchange⟩ := orRefuse_bind_eq_ok_iff.mp h
  obtain rfl := Except.ok.inj hchange
  have hconnects : (Step.addField tableId field).Connects
      (withFields diagram tableId table.fields) _ :=
    .of_append (insertField_leads hfind) (removeField_leads hfind) (hnew table hfind) rfl rfl
  rwa [withFields_self hfind] at hconnects

theorem updateFieldChange_connects {fieldId : Identifier} {patch : FieldPatch}
    {change : Change κ} (h : updateFieldChange diagram tableId fieldId patch = .ok change) :
    change.step.Connects diagram change.diagram := by
  obtain ⟨table, hfind, hrest⟩ := orRefuse_bind_eq_ok_iff.mp h
  obtain ⟨before, hbefore, hchange⟩ := orRefuse_bind_eq_ok_iff.mp hrest
  obtain rfl := Except.ok.inj hchange
  obtain rfl : before.id = fieldId := key_of_find? hbefore
  have hconnects : (Step.updateField tableId before (before.apply patch)).Connects
      (withFields diagram tableId table.fields) _ :=
    .of_update (updateField_leads hfind) Field.id_apply Field.apply_replaceWith hbefore patch
      rfl rfl
  rwa [withFields_self hfind] at hconnects

theorem removeFieldChange_connects {fieldId : Identifier} {change : Change κ}
    (h : removeFieldChange diagram tableId fieldId = .ok change) :
    change.step.Connects diagram change.diagram := by
  obtain ⟨table, hfind, hrest⟩ := orRefuse_bind_eq_ok_iff.mp h
  obtain ⟨field, hfield, hchange⟩ := orRefuse_bind_eq_ok_iff.mp hrest
  obtain rfl := Except.ok.inj hchange
  obtain rfl : field.id = fieldId := key_of_find? hfield
  have hconnects : (Step.removeField tableId field
        (table.fields.findIdx fun other => other.id == field.id)).Connects
      (withFields diagram tableId table.fields) _ :=
    .of_erase (insertField_leads hfind) (removeField_leads hfind) hfield rfl rfl
  rwa [withFields_self hfind] at hconnects

/-! ## Indexes of a table -/

/-- A diagram in which the first table with an identifier has other indexes. -/
def withIndexes (diagram : Diagram κ) (tableId : Identifier) (indexes : List Index) : Diagram κ :=
  changeTable diagram tableId fun table => { table with indexes := indexes }

section Indexes

variable (hfind : diagram.table? tableId = some table)

include hfind

theorem withIndexes_self : withIndexes diagram tableId table.indexes = diagram :=
  changeTable_self hfind rfl

theorem insertIndex_leads (indexes : List Index) (index : Index) (position : Option Nat) :
    (insertIndex tableId index position).Leads (withIndexes diagram tableId indexes)
      (withIndexes diagram tableId
        (insertClamped indexes (position.getD indexes.length) index)) :=
  ⟨_, orRefuse_bind_eq_ok_iff.mpr ⟨_, changeTable_table? hfind rfl, rfl⟩,
    changeTable_changeTable hfind rfl⟩

theorem updateIndex_leads (indexes : List Index) (index : Index) (patch : IndexPatch)
    (hindex : indexes.find? (fun other => other.id == index.id) = some index) :
    (updateIndex tableId index.id patch).Leads (withIndexes diagram tableId indexes)
      (withIndexes diagram tableId (updateFirst (fun other => other.id == index.id)
        (fun other => other.apply patch) indexes)) :=
  ⟨_, orRefuse_bind_eq_ok_iff.mpr ⟨_, changeTable_table? hfind rfl,
    orRefuse_bind_eq_ok_iff.mpr ⟨index, hindex, rfl⟩⟩, changeTable_changeTable hfind rfl⟩

theorem removeIndex_leads (indexes : List Index) (index : Index)
    (hindex : indexes.find? (fun other => other.id == index.id) = some index) :
    (removeIndex tableId index.id).Leads (withIndexes diagram tableId indexes)
      (withIndexes diagram tableId
        (indexes.eraseIdx (indexes.findIdx fun other => other.id == index.id))) :=
  ⟨_, orRefuse_bind_eq_ok_iff.mpr ⟨_, changeTable_table? hfind rfl,
    orRefuse_bind_eq_ok_iff.mpr ⟨index, hindex, rfl⟩⟩, changeTable_changeTable hfind rfl⟩

end Indexes

theorem insertIndexChange_connects {index : Index} {change : Change κ}
    (h : insertIndexChange diagram tableId index none = .ok change)
    (hnew : ∀ table, diagram.table? tableId = some table → table.index? index.id = none) :
    change.step.Connects diagram change.diagram := by
  obtain ⟨table, hfind, hchange⟩ := orRefuse_bind_eq_ok_iff.mp h
  obtain rfl := Except.ok.inj hchange
  have hconnects : (Step.addIndex tableId index).Connects
      (withIndexes diagram tableId table.indexes) _ :=
    .of_append (insertIndex_leads hfind) (removeIndex_leads hfind) (hnew table hfind) rfl rfl
  rwa [withIndexes_self hfind] at hconnects

theorem updateIndexChange_connects {indexId : Identifier} {patch : IndexPatch}
    {change : Change κ} (h : updateIndexChange diagram tableId indexId patch = .ok change) :
    change.step.Connects diagram change.diagram := by
  obtain ⟨table, hfind, hrest⟩ := orRefuse_bind_eq_ok_iff.mp h
  obtain ⟨before, hbefore, hchange⟩ := orRefuse_bind_eq_ok_iff.mp hrest
  obtain rfl := Except.ok.inj hchange
  obtain rfl : before.id = indexId := key_of_find? hbefore
  have hconnects : (Step.updateIndex tableId before (before.apply patch)).Connects
      (withIndexes diagram tableId table.indexes) _ :=
    .of_update (updateIndex_leads hfind) Index.id_apply Index.apply_replaceWith hbefore patch
      rfl rfl
  rwa [withIndexes_self hfind] at hconnects

theorem removeIndexChange_connects {indexId : Identifier} {change : Change κ}
    (h : removeIndexChange diagram tableId indexId = .ok change) :
    change.step.Connects diagram change.diagram := by
  obtain ⟨table, hfind, hrest⟩ := orRefuse_bind_eq_ok_iff.mp h
  obtain ⟨index, hindex, hchange⟩ := orRefuse_bind_eq_ok_iff.mp hrest
  obtain rfl := Except.ok.inj hchange
  obtain rfl : index.id = indexId := key_of_find? hindex
  have hconnects : (Step.removeIndex tableId index
        (table.indexes.findIdx fun other => other.id == index.id)).Connects
      (withIndexes diagram tableId table.indexes) _ :=
    .of_erase (insertIndex_leads hfind) (removeIndex_leads hfind) hindex rfl rfl
  rwa [withIndexes_self hfind] at hconnects

end Mutation

end SchemaDiagram
