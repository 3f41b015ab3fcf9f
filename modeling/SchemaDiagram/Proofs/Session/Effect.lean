import SchemaDiagram.Proofs.Session.Recorded

/-!
# The effect of a mutation

However a mutation came about, it has one of a few effects on the lists of a diagram, with the
writes that tell a storage of it.  What holds of every change is read off the effects: identifiers
that are pairwise distinct stay so, as long as the entities that are put in carry new ones.
-/

namespace SchemaDiagram

variable {κ α : Type}

/-! ## Distinct identifiers -/

/-- The tables of a diagram carry pairwise distinct identifiers, and so do its relationships and its
dependencies. -/
structure Diagram.Distinct (diagram : Diagram κ) : Prop where
  tables : (diagram.tables.map Table.id).Nodup
  relationships : (diagram.relationships.map Relationship.id).Nodup
  dependencies : (diagram.dependencies.map Dependency.id).Nodup

@[simp] theorem Diagram.distinct_touched {diagram : Diagram κ} {time : Timestamp} :
    (diagram.touched time).Distinct ↔ diagram.Distinct :=
  ⟨fun h => ⟨h.tables, h.relationships, h.dependencies⟩,
    fun h => ⟨h.tables, h.relationships, h.dependencies⟩⟩

/-- Putting items at positions adds them, wherever they go. -/
theorem insertPositioned_perm (items : List α) (entries : List (Nat × α)) :
    (insertPositioned items entries).Perm (items ++ entries.map Prod.snd) := by
  induction entries generalizing items with
  | nil => simp [insertPositioned]
  | cons entry rest ih =>
      have hfirst : (insertClamped items entry.1 entry.2).Perm (entry.2 :: items) :=
        List.perm_insertIdx entry.2 items (Nat.min_le_right _ _)
      have hrest := ih (insertClamped items entry.1 entry.2)
      refine hrest.trans ((hfirst.append_right _).trans ?_)
      exact List.perm_middle.symm

namespace Mutation

/-- The entities that a mutation puts into a diagram carry identifiers that differ from each other
and from those in use. -/
def BringsNew (diagram : Diagram κ) : Mutation κ → Prop
  | insertTables entries =>
    ((diagram.tables ++ entries.map Prod.snd).map Table.id).Nodup
  | addTables tables => ((diagram.tables ++ tables).map Table.id).Nodup
  | setTables tables .override => (tables.map Table.id).Nodup
  | insertRelationships entries =>
    ((diagram.relationships ++ entries.map Prod.snd).map Relationship.id).Nodup
  | addRelationships relationships =>
    ((diagram.relationships ++ relationships).map Relationship.id).Nodup
  | insertDependencies entries =>
    ((diagram.dependencies ++ entries.map Prod.snd).map Dependency.id).Nodup
  | addDependencies dependencies =>
    ((diagram.dependencies ++ dependencies).map Dependency.id).Nodup
  | _ => True

end Mutation

/-- The entities that a step puts in when it is redone carry pairwise distinct identifiers. -/
def Step.BringsDistinct : Step κ → Prop
  | addTables tables => (tables.map Table.id).Nodup
  | setTables _ after _ => (after.map Table.id).Nodup
  | addRelationships relationships => (relationships.map Relationship.id).Nodup
  | addDependencies dependencies => (dependencies.map Dependency.id).Nodup
  | _ => True

/-! ## Effects -/

namespace Mutation

/-- The identifiers of the tables among those asked for that are there. -/
def present (diagram : Diagram κ) (ids : List Identifier) : List Identifier :=
  (diagram.tables.filter fun table => ids.contains table.id).map Table.id

/-- What a change can do to a diagram, what it writes, and what can be said of its step.  Wherever
the diagram keeps its name, no new name is given. -/
inductive Effect (diagram : Diagram κ) (mutation : Mutation κ) (change : Change κ) : Prop
  | renamed (name : String) (hdiagram : change.diagram = { diagram with name := name })
      (hname : change.newName = some name) (hwrites : change.writes = [])
      (hstep : change.step = .renameDiagram diagram.name name)
  | tablesAdded (placed tables : List (Table κ))
      (hdiagram : change.diagram = { diagram with tables := placed })
      (hplaced : placed.Perm (diagram.tables ++ tables))
      (hnew : mutation.BringsNew diagram → ((diagram.tables ++ tables).map Table.id).Nodup)
      (hname : change.newName = none) (hwrites : change.writes = tables.map .addTable)
      (hstep : change.step = .addTables tables)
  | tablesRemoved (ids : List Identifier)
      (hdiagram : change.diagram = withoutTables diagram ids)
      (hname : change.newName = none)
      (hwrites : change.writes = (detachLinks diagram (present diagram ids)).1.deletions ++
        (present diagram ids).map .deleteTable)
      (hstep : change.step.BringsDistinct)
  | tableChanged (id : Identifier) (patch : TablePatch κ) (table : Table κ)
      (hfind : diagram.table? id = some table)
      (hdiagram : change.diagram = { diagram with
        tables := updateFirst (fun table => table.id == id) (fun table => table.apply patch)
          diagram.tables })
      (hname : change.newName = none) (hwrites : change.writes = [.updateTable id patch])
      (hstep : change.step.BringsDistinct)
  | tablesSet (after : List (Table κ)) (links : DetachedLinks)
      (hdiagram : change.diagram = withTables diagram after)
      (hnew : mutation.BringsNew diagram → diagram.Distinct → (after.map Table.id).Nodup)
      (hname : change.newName = none)
      (hwrites : change.writes = after.map .putTable ++
        (vanishing diagram.tables after).map .deleteTable ++
          (detachLinks diagram (vanishing diagram.tables after)).1.deletions)
      (hstep : change.step = .setTables diagram.tables after links)
  | relationshipsAdded (placed relationships : List Relationship)
      (hdiagram : change.diagram = { diagram with relationships := placed })
      (hplaced : placed.Perm (diagram.relationships ++ relationships))
      (hnew : mutation.BringsNew diagram →
        ((diagram.relationships ++ relationships).map Relationship.id).Nodup)
      (hname : change.newName = none)
      (hwrites : change.writes = relationships.map .addRelationship)
      (hstep : change.step = .addRelationships relationships)
  | relationshipsRemoved (ids : List Identifier)
      (hdiagram : change.diagram = { diagram with
        relationships := diagram.relationships.filter fun item => !ids.contains item.id })
      (hname : change.newName = none)
      (hwrites : change.writes = ((diagram.relationships.filter fun item =>
        ids.contains item.id).map Relationship.id).map .deleteRelationship)
      (hstep : change.step.BringsDistinct)
  | relationshipChanged (id : Identifier) (patch : RelationshipPatch)
      (relationship : Relationship) (hfind : diagram.relationship? id = some relationship)
      (hdiagram : change.diagram = { diagram with
        relationships := updateFirst (fun relationship => relationship.id == id)
          (fun relationship => relationship.apply patch) diagram.relationships })
      (hname : change.newName = none) (hwrites : change.writes = [.updateRelationship id patch])
      (hstep : change.step.BringsDistinct)
  | dependenciesAdded (placed dependencies : List Dependency)
      (hdiagram : change.diagram = { diagram with dependencies := placed })
      (hplaced : placed.Perm (diagram.dependencies ++ dependencies))
      (hnew : mutation.BringsNew diagram →
        ((diagram.dependencies ++ dependencies).map Dependency.id).Nodup)
      (hname : change.newName = none)
      (hwrites : change.writes = dependencies.map .addDependency)
      (hstep : change.step = .addDependencies dependencies)
  | dependenciesRemoved (ids : List Identifier)
      (hdiagram : change.diagram = { diagram with
        dependencies := diagram.dependencies.filter fun item => !ids.contains item.id })
      (hname : change.newName = none)
      (hwrites : change.writes = ((diagram.dependencies.filter fun item =>
        ids.contains item.id).map Dependency.id).map .deleteDependency)
      (hstep : change.step.BringsDistinct)
  | dependencyChanged (id : Identifier) (patch : DependencyPatch) (dependency : Dependency)
      (hfind : diagram.dependency? id = some dependency)
      (hdiagram : change.diagram = { diagram with
        dependencies := updateFirst (fun dependency => dependency.id == id)
          (fun dependency => dependency.apply patch) diagram.dependencies })
      (hname : change.newName = none) (hwrites : change.writes = [.updateDependency id patch])
      (hstep : change.step.BringsDistinct)

theorem nodup_tablesAfter_merge {before given : List (Table κ)}
    (hnodup : (before.map Table.id).Nodup) :
    ((tablesAfter before given .merge).map Table.id).Nodup := by
  have hids : (tablesAfter before given .merge).map Table.id =
      (before.map Table.id).filterMap fun id =>
        (given.find? fun table => table.id == id).map Table.id := by
    rw [tablesAfter, List.map_filterMap, List.filterMap_map]
    rfl
  rw [hids]
  apply List.Nodup.filterMap ?_ hnodup
  intro first second id hfirst hsecond
  obtain ⟨table, hfind, rfl⟩ := Option.map_eq_some_iff.mp hfirst
  obtain ⟨other, hother, hsame⟩ := Option.map_eq_some_iff.mp hsecond
  rw [← key_of_find? hfind, ← key_of_find? hother, hsame]

section Tables

variable {mutation : Mutation κ} {diagram : Diagram κ} {change : Change κ}

theorem insertTablesChange_effect {entries : List (Nat × Table κ)}
    (hnew : mutation.BringsNew diagram →
      ((diagram.tables ++ entries.map Prod.snd).map Table.id).Nodup) :
    mutation.Effect diagram (insertTablesChange diagram entries) :=
  .tablesAdded _ (entries.map Prod.snd) rfl (insertPositioned_perm _ _) hnew rfl rfl rfl

theorem removeTablesChange_effect {ids : List Identifier}
    (h : removeTablesChange diagram ids = .ok change) : mutation.Effect diagram change := by
  obtain ⟨hdiagram, hstep⟩ := removeTablesChange_eq_ok h
  have hwritten : change.newName = none ∧
      change.writes = (detachLinks diagram (present diagram ids)).1.deletions ++
        (present diagram ids).map .deleteTable := by
    simp only [removeTablesChange, map_key_takePositioned] at h
    split at h
    · cases h
    · obtain rfl := Except.ok.inj h
      exact ⟨rfl, rfl⟩
  refine .tablesRemoved ids hdiagram hwritten.1 hwritten.2 ?_
  rw [hstep]
  trivial

theorem updateTableChange_effect {id : Identifier} {patch : TablePatch κ}
    (h : updateTableChange diagram id patch = .ok change) : mutation.Effect diagram change := by
  obtain ⟨table, hfind, hchange⟩ := orRefuse_bind_eq_ok_iff.mp h
  obtain rfl := Except.ok.inj hchange
  exact .tableChanged id patch table hfind rfl rfl rfl trivial

theorem setTablesChange_effect (diagram : Diagram κ) (given : List (Table κ)) (mode : TablesMode) :
    (setTables given mode).Effect diagram (setTablesChange diagram given mode) := by
  refine .tablesSet (tablesAfter diagram.tables given mode) _ rfl ?_ rfl rfl rfl
  intro hnew hdistinct
  cases mode with
  | merge => exact nodup_tablesAfter_merge hdistinct.tables
  | override => exact hnew

end Tables

section Parts

variable {mutation : Mutation κ} {diagram : Diagram κ} {change : Change κ} {table : Table κ}
  {tableId : Identifier} {step : Step κ}

/-- Other fields are an update of the table that gives fields only. -/
theorem fieldsChange_effect (hfind : diagram.table? tableId = some table) {fields : List Field}
    {event : Event} (hchange : fieldsChange diagram tableId fields event step = change)
    (hstep : step.BringsDistinct) : mutation.Effect diagram change := by
  subst hchange
  exact .tableChanged tableId { fields := some fields } table hfind rfl rfl rfl hstep

theorem indexesChange_effect (hfind : diagram.table? tableId = some table) {indexes : List Index}
    (hchange : indexesChange diagram tableId indexes step = change)
    (hstep : step.BringsDistinct) : mutation.Effect diagram change := by
  subst hchange
  exact .tableChanged tableId { indexes := some indexes } table hfind rfl rfl rfl hstep

end Parts

section Links

variable {mutation : Mutation κ} {diagram : Diagram κ} {change : Change κ}

theorem insertRelationshipsChange_effect {entries : List (Nat × Relationship)}
    (hnew : mutation.BringsNew diagram →
      ((diagram.relationships ++ entries.map Prod.snd).map Relationship.id).Nodup) :
    mutation.Effect diagram (insertRelationshipsChange diagram entries) :=
  .relationshipsAdded _ (entries.map Prod.snd) rfl (insertPositioned_perm _ _) hnew rfl rfl rfl

theorem removeRelationshipsChange_effect {ids : List Identifier}
    (h : removeRelationshipsChange diagram ids = .ok change) : mutation.Effect diagram change := by
  obtain ⟨hdiagram, hstep⟩ := removeRelationshipsChange_eq_ok h
  rw [takePositioned_snd] at hdiagram
  have hwritten : change.newName = none ∧
      change.writes = ((diagram.relationships.filter fun item =>
        ids.contains item.id).map Relationship.id).map .deleteRelationship := by
    simp only [removeRelationshipsChange, map_key_takePositioned] at h
    split at h
    · cases h
    · obtain rfl := Except.ok.inj h
      exact ⟨rfl, rfl⟩
  refine .relationshipsRemoved ids hdiagram hwritten.1 hwritten.2 ?_
  rw [hstep]
  trivial

theorem updateRelationshipChange_effect {id : Identifier} {patch : RelationshipPatch}
    (h : updateRelationshipChange diagram id patch = .ok change) :
    mutation.Effect diagram change := by
  obtain ⟨relationship, hfind, hchange⟩ := orRefuse_bind_eq_ok_iff.mp h
  obtain rfl := Except.ok.inj hchange
  exact .relationshipChanged id patch relationship hfind rfl rfl rfl trivial

theorem insertDependenciesChange_effect {entries : List (Nat × Dependency)}
    (hnew : mutation.BringsNew diagram →
      ((diagram.dependencies ++ entries.map Prod.snd).map Dependency.id).Nodup) :
    mutation.Effect diagram (insertDependenciesChange diagram entries) :=
  .dependenciesAdded _ (entries.map Prod.snd) rfl (insertPositioned_perm _ _) hnew rfl rfl rfl

theorem removeDependenciesChange_effect {ids : List Identifier}
    (h : removeDependenciesChange diagram ids = .ok change) : mutation.Effect diagram change := by
  obtain ⟨hdiagram, hstep⟩ := removeDependenciesChange_eq_ok h
  rw [takePositioned_snd] at hdiagram
  have hwritten : change.newName = none ∧
      change.writes = ((diagram.dependencies.filter fun item =>
        ids.contains item.id).map Dependency.id).map .deleteDependency := by
    simp only [removeDependenciesChange, map_key_takePositioned] at h
    split at h
    · cases h
    · obtain rfl := Except.ok.inj h
      exact ⟨rfl, rfl⟩
  refine .dependenciesRemoved ids hdiagram hwritten.1 hwritten.2 ?_
  rw [hstep]
  trivial

theorem updateDependencyChange_effect {id : Identifier} {patch : DependencyPatch}
    (h : updateDependencyChange diagram id patch = .ok change) :
    mutation.Effect diagram change := by
  obtain ⟨dependency, hfind, hchange⟩ := orRefuse_bind_eq_ok_iff.mp h
  obtain rfl := Except.ok.inj hchange
  exact .dependencyChanged id patch dependency hfind rfl rfl rfl trivial

end Links

/-- Every change has one of the effects. -/
theorem change_effect {mutation : Mutation κ} {diagram : Diagram κ} {change : Change κ}
    (h : mutation.change diagram = .ok change) : mutation.Effect diagram change := by
  cases mutation with
  | renameDiagram name =>
      obtain rfl := Except.ok.inj h
      exact .renamed name rfl rfl rfl rfl
  | insertTables entries =>
      obtain rfl := Except.ok.inj h
      exact insertTablesChange_effect id
  | addTables tables =>
      obtain rfl := Except.ok.inj h
      exact insertTablesChange_effect fun hnew => by rwa [positionedFrom_map_snd]
  | removeTables ids => exact removeTablesChange_effect h
  | updateTable id patch => exact updateTableChange_effect h
  | setTables tables mode =>
      obtain rfl := Except.ok.inj h
      exact setTablesChange_effect diagram tables mode
  | insertField =>
      obtain ⟨table, hfind, hchange⟩ := orRefuse_bind_eq_ok_iff.mp h
      exact fieldsChange_effect hfind (Except.ok.inj hchange) trivial
  | updateField | removeField =>
      obtain ⟨table, hfind, hrest⟩ := orRefuse_bind_eq_ok_iff.mp h
      obtain ⟨_, -, hchange⟩ := orRefuse_bind_eq_ok_iff.mp hrest
      exact fieldsChange_effect hfind (Except.ok.inj hchange) trivial
  | insertIndex =>
      obtain ⟨table, hfind, hchange⟩ := orRefuse_bind_eq_ok_iff.mp h
      exact indexesChange_effect hfind (Except.ok.inj hchange) trivial
  | updateIndex | removeIndex =>
      obtain ⟨table, hfind, hrest⟩ := orRefuse_bind_eq_ok_iff.mp h
      obtain ⟨_, -, hchange⟩ := orRefuse_bind_eq_ok_iff.mp hrest
      exact indexesChange_effect hfind (Except.ok.inj hchange) trivial
  | insertRelationships entries =>
      obtain rfl := Except.ok.inj h
      exact insertRelationshipsChange_effect id
  | addRelationships relationships =>
      obtain rfl := Except.ok.inj h
      exact insertRelationshipsChange_effect fun hnew => by rwa [positionedFrom_map_snd]
  | removeRelationships ids => exact removeRelationshipsChange_effect h
  | updateRelationship id patch => exact updateRelationshipChange_effect h
  | insertDependencies entries =>
      obtain rfl := Except.ok.inj h
      exact insertDependenciesChange_effect id
  | addDependencies dependencies =>
      obtain rfl := Except.ok.inj h
      exact insertDependenciesChange_effect fun hnew => by rwa [positionedFrom_map_snd]
  | removeDependencies ids => exact removeDependenciesChange_effect h
  | updateDependency id patch => exact updateDependencyChange_effect h

/-! ## What every effect keeps -/

variable {diagram : Diagram κ} {mutation : Mutation κ} {change : Change κ}

theorem nodup_filter_key {key : α → Identifier} {items : List α}
    (h : (items.map key).Nodup) (p : α → Bool) : ((items.filter p).map key).Nodup :=
  h.sublist (List.filter_sublist.map key)

theorem detachLinks_distinct (hdistinct : diagram.Distinct) (ids : List Identifier) :
    ((detachLinks diagram ids).2.relationships.map Relationship.id).Nodup ∧
      ((detachLinks diagram ids).2.dependencies.map Dependency.id).Nodup := by
  rw [detachLinks_eq]
  dsimp only
  rw [takePositioned_snd, takePositioned_snd]
  exact ⟨nodup_filter_key hdistinct.relationships _, nodup_filter_key hdistinct.dependencies _⟩

/-- Distinct identifiers stay distinct if only new ones are brought. -/
theorem Effect.distinct (heffect : mutation.Effect diagram change)
    (hdistinct : diagram.Distinct) (hnew : mutation.BringsNew diagram) :
    change.diagram.Distinct := by
  obtain ⟨htables, hrelationships, hdependencies⟩ := hdistinct
  cases heffect with
  | renamed name hdiagram =>
      rw [hdiagram]
      exact ⟨htables, hrelationships, hdependencies⟩
  | tablesAdded placed tables hdiagram hplaced hfresh =>
      rw [hdiagram]
      exact ⟨(hplaced.map Table.id).nodup_iff.mpr (hfresh hnew), hrelationships, hdependencies⟩
  | tablesRemoved ids hdiagram =>
      rw [hdiagram]
      obtain ⟨hleft, hright⟩ := detachLinks_distinct ⟨htables, hrelationships, hdependencies⟩ _
      refine ⟨?_, hleft, hright⟩
      rw [withoutTables, takePositioned_snd]
      exact nodup_filter_key htables _
  | tableChanged id patch table hfind hdiagram =>
      rw [hdiagram]
      refine ⟨?_, hrelationships, hdependencies⟩
      rwa [map_updateFirst fun table => Table.id_apply table patch]
  | tablesSet after links hdiagram hfresh =>
      rw [hdiagram]
      obtain ⟨hleft, hright⟩ := detachLinks_distinct ⟨htables, hrelationships, hdependencies⟩ _
      exact ⟨hfresh hnew ⟨htables, hrelationships, hdependencies⟩, hleft, hright⟩
  | relationshipsAdded placed relationships hdiagram hplaced hfresh =>
      rw [hdiagram]
      exact ⟨htables, (hplaced.map Relationship.id).nodup_iff.mpr (hfresh hnew), hdependencies⟩
  | relationshipsRemoved ids hdiagram =>
      rw [hdiagram]
      exact ⟨htables, nodup_filter_key hrelationships _, hdependencies⟩
  | relationshipChanged id patch relationship hfind hdiagram =>
      rw [hdiagram]
      refine ⟨htables, ?_, hdependencies⟩
      rwa [map_updateFirst fun relationship => Relationship.id_apply relationship patch]
  | dependenciesAdded placed dependencies hdiagram hplaced hfresh =>
      rw [hdiagram]
      exact ⟨htables, hrelationships, (hplaced.map Dependency.id).nodup_iff.mpr (hfresh hnew)⟩
  | dependenciesRemoved ids hdiagram =>
      rw [hdiagram]
      exact ⟨htables, hrelationships, nodup_filter_key hdependencies _⟩
  | dependencyChanged id patch dependency hfind hdiagram =>
      rw [hdiagram]
      refine ⟨htables, hrelationships, ?_⟩
      rwa [map_updateFirst fun dependency => Dependency.id_apply dependency patch]

theorem nodup_of_perm_append {key : α → Identifier} {placed old new : List α}
    (hplaced : placed.Perm (old ++ new)) (h : (placed.map key).Nodup) : (new.map key).Nodup := by
  have hall := (hplaced.map key).nodup_iff.mp h
  rw [List.map_append, List.nodup_append] at hall
  exact hall.2.1

/-- The step of a change that leaves distinct identifiers brings distinct ones. -/
theorem Effect.step (heffect : mutation.Effect diagram change)
    (hdistinct : change.diagram.Distinct) : change.step.BringsDistinct := by
  cases heffect with
  | renamed name hdiagram hname hwrites hstep =>
      rw [hstep]
      trivial
  | tablesAdded placed tables hdiagram hplaced hfresh hname hwrites hstep =>
      rw [hstep]
      rw [hdiagram] at hdistinct
      exact nodup_of_perm_append hplaced hdistinct.tables
  | tablesSet after links hdiagram hfresh hname hwrites hstep =>
      rw [hstep]
      rw [hdiagram] at hdistinct
      exact hdistinct.tables
  | relationshipsAdded placed relationships hdiagram hplaced hfresh hname hwrites hstep =>
      rw [hstep]
      rw [hdiagram] at hdistinct
      exact nodup_of_perm_append hplaced hdistinct.relationships
  | dependenciesAdded placed dependencies hdiagram hplaced hfresh hname hwrites hstep =>
      rw [hstep]
      rw [hdiagram] at hdistinct
      exact nodup_of_perm_append hplaced hdistinct.dependencies
  | tablesRemoved _ _ _ _ hstep => exact hstep
  | tableChanged _ _ _ _ _ _ _ hstep => exact hstep
  | relationshipsRemoved _ _ _ _ hstep => exact hstep
  | relationshipChanged _ _ _ _ _ _ _ hstep => exact hstep
  | dependenciesRemoved _ _ _ _ hstep => exact hstep
  | dependencyChanged _ _ _ _ _ _ _ hstep => exact hstep

end Mutation

end SchemaDiagram
