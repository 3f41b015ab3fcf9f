import SchemaDiagram.Proofs.Session.RecordedPlan
import SchemaDiagram.Session.Create

/-!
# Edits

Everything that a session does with history: the mutations that are passed in, the entities that the
session makes by itself, and texts.  An edit either leaves the diagram and the history alone or
records exactly one command, which connects the diagram before the edit with the one after it.
-/

namespace SchemaDiagram

variable {σ κ : Type}

/-! ## Edits -/

/-- What a session does with history. -/
inductive Edit (κ : Type) where
  | mutate (mutation : Mutation κ)
  | createTable (attributes : TablePatch κ)
  | createField (tableId : Identifier)
  | createIndex (tableId : Identifier)
  | createRelationship (source target : Identifier × Identifier)
  | createDependency (tableId dependentTableId : Identifier)
  | applyText (text : String)

/-- The workspace after an edit, whatever the edit answers. -/
def Edit.run [Storage σ κ] [Coordinate κ] (workspace : Workspace σ κ) :
    Edit κ → Workspace σ κ
  | mutate mutation => (workspace.perform mutation true).2
  | createTable attributes => (workspace.createTable attributes).2
  | createField tableId => (workspace.createField tableId).2
  | createIndex tableId => (workspace.createIndex tableId).2
  | createRelationship source target => (workspace.createRelationship source target).2
  | createDependency tableId dependentTableId =>
    (workspace.createDependency tableId dependentTableId).2
  | applyText text => (workspace.applyText text).2

/-- No identifier that is yet to be drawn is in use anywhere in a diagram. -/
structure Supply.Unused (supply : Supply) (diagram : Diagram κ) : Prop where
  entities : supply.FreshFor diagram
  dependencies : ∀ id, supply.Draws id → diagram.dependency? id = none
  fields : ∀ id, supply.Draws id → ∀ table ∈ diagram.tables, table.field? id = none
  indexes : ∀ id, supply.Draws id → ∀ table ∈ diagram.tables, table.index? id = none

/-- The entities that are passed in, and those made by the session itself, carry identifiers that
are not in use. -/
def Edit.Allowed (session : Session κ) : Edit κ → Prop
  | mutate mutation =>
    ∀ diagram, session.diagram? = some diagram → mutation.Admissible diagram
  | _ => ∀ diagram, session.diagram? = some diagram → session.supply.Unused diagram

/-- No entity of a diagram carries an identifier, and no link stands at it. -/
structure Diagram.Spares (diagram : Diagram κ) (id : Identifier) : Prop where
  table : diagram.table? id = none
  unlinked : diagram.Unlinked id
  relationship : diagram.relationship? id = none
  dependency : diagram.dependency? id = none
  fields : ∀ table ∈ diagram.tables, table.field? id = none
  indexes : ∀ table ∈ diagram.tables, table.index? id = none

/-- A diagram without entities spares every identifier. -/
theorem Diagram.Spares.of_empty {diagram : Diagram κ} (htables : diagram.tables = [])
    (hrelationships : diagram.relationships = []) (hdependencies : diagram.dependencies = [])
    (id : Identifier) : diagram.Spares id := by
  constructor
  · rw [Diagram.table?, htables]
    rfl
  · constructor
    · simp [hrelationships]
    · simp [hdependencies]
  · rw [Diagram.relationship?, hrelationships]
    rfl
  · rw [Diagram.dependency?, hdependencies]
    rfl
  · simp [htables]
  · simp [htables]

theorem Supply.Unused.spares {supply : Supply} {diagram : Diagram κ} (h : supply.Unused diagram)
    {id : Identifier} (hid : supply.Draws id) : diagram.Spares id := by
  obtain ⟨htable, hunlinked, hrelationship⟩ := h.entities id hid
  exact ⟨htable, hunlinked, hrelationship, h.dependencies id hid, h.fields id hid,
    h.indexes id hid⟩

/-- In a diagram without entities no identifier is in use. -/
theorem Supply.Unused.of_empty (supply : Supply) {diagram : Diagram κ}
    (htables : diagram.tables = []) (hrelationships : diagram.relationships = [])
    (hdependencies : diagram.dependencies = []) : supply.Unused diagram := by
  have hempty := Diagram.Spares.of_empty htables hrelationships hdependencies
  constructor
  · exact fun id _ => ⟨(hempty id).table, (hempty id).unlinked, (hempty id).relationship⟩
  · exact fun id _ => (hempty id).dependency
  · exact fun id _ => (hempty id).fields
  · exact fun id _ => (hempty id).indexes

/-- The identifiers of the tables and relationships that a plan creates. -/
def Plan.createdIds (plan : Plan κ) : List Identifier :=
  plan.createdTables.map Table.id ++ plan.createdRelationships.map Relationship.id

/-- The identifiers of the entities that an edit makes by itself. -/
def Edit.made [Coordinate κ] (session : Session κ) : Edit κ → List Identifier
  | mutate _ => []
  | applyText text => (Workspace.planFor session text).1.createdIds
  | _ => [(session.supply.get 0).id]

/-- What an edit asks of a diagram so that it can be undone: a caller may ask for the mutation that
is passed in, and what the edit makes by itself is not in use. -/
def Edit.Sound [Coordinate κ] (session : Session κ) : Edit κ → Prop
  | mutate mutation =>
    ∀ diagram, session.diagram? = some diagram → mutation.Admissible diagram
  | edit => ∀ diagram, session.diagram? = some diagram →
    ∀ id ∈ edit.made session, diagram.Spares id

/-! ## What an edit records -/

namespace Workspace

/-- One workspace comes from another one by recording a single command, or nothing happens to its
diagram and its history. -/
def Records (before after : Workspace σ κ) : Prop :=
  (after.session.history = before.session.history ∧
    after.session.diagram? = before.session.diagram?) ∨
  ∃ start present command, before.session.diagram? = some start ∧
    after.session.diagram? = some present ∧
    after.session.history = before.session.history.push command ∧
    command.Connects start present

theorem Records.refl (workspace : Workspace σ κ) : workspace.Records workspace :=
  .inl ⟨rfl, rfl⟩

variable [Storage σ κ]

/-- A mutation that is carried out outside of groups records its step as one command. -/
theorem perform_records (workspace : Workspace σ κ) {mutation : Mutation κ}
    (hidle : workspace.session.history.group = none)
    (hadmissible : ∀ diagram, workspace.session.diagram? = some diagram →
      mutation.Admissible diagram) :
    workspace.Records (workspace.perform mutation true).2 := by
  cases hloaded : workspace.session.diagram? with
  | none =>
      rw [perform_of_unloaded mutation true hloaded]
      exact .refl workspace
  | some diagram =>
      cases hchange : mutation.change diagram with
      | error error =>
          rw [perform_of_refusal true hloaded hchange]
          exact .refl workspace
      | ok change =>
          let now := (workspace.session.supply.get 0).time
          have hconnects := (hadmissible diagram hloaded).connects hchange
          refine .inr ⟨diagram, change.diagram.touched now,
            ⟨.step change.step, diagram.updatedAt, now⟩, hloaded, ?_, ?_, ?_⟩
          · rw [perform_session true hloaded hchange]
            rfl
          · rw [perform_session true hloaded hchange]
            simp only [Session.commit, Session.recordStep, Session.emit, Session.draw, if_true,
              History.record, hidle]
            rfl
          · exact ⟨by simpa [Action.steps] using hconnects.trail.touched now, rfl, rfl⟩

theorem performFor_records {α : Type} {workspace : Workspace σ κ} {count : Nat}
    {mutation : Mutation κ} {entity : α} (hidle : workspace.session.history.group = none)
    (hadmissible : ∀ diagram, workspace.session.diagram? = some diagram →
      mutation.Admissible diagram) :
    workspace.Records (workspace.performFor count mutation entity).2 :=
  perform_records (workspace.withSession (workspace.session.draw count)) hidle hadmissible

theorem createTable_records [Coordinate κ] {workspace : Workspace σ κ}
    {attributes : TablePatch κ} (hidle : workspace.session.history.group = none)
    (hspared : ∀ diagram, workspace.session.diagram? = some diagram →
      diagram.Spares (workspace.session.supply.get 0).id) :
    workspace.Records (workspace.createTable attributes).2 := by
  apply performFor_records hidle
  intro diagram hloaded table hmem
  obtain rfl := List.mem_singleton.mp hmem
  rw [Table.id_apply]
  exact ⟨(hspared diagram hloaded).table, (hspared diagram hloaded).unlinked⟩

theorem createField_records {workspace : Workspace σ κ} {tableId : Identifier}
    (hidle : workspace.session.history.group = none)
    (hspared : ∀ diagram, workspace.session.diagram? = some diagram →
      diagram.Spares (workspace.session.supply.get 0).id) :
    workspace.Records (workspace.createField tableId).2 := by
  unfold createField
  dsimp only
  split
  · exact .refl workspace
  · apply performFor_records hidle
    intro diagram hloaded table htable
    exact (hspared diagram hloaded).fields table (List.mem_of_find?_eq_some htable)

theorem createIndex_records {workspace : Workspace σ κ} {tableId : Identifier}
    (hidle : workspace.session.history.group = none)
    (hspared : ∀ diagram, workspace.session.diagram? = some diagram →
      diagram.Spares (workspace.session.supply.get 0).id) :
    workspace.Records (workspace.createIndex tableId).2 := by
  unfold createIndex
  dsimp only
  split
  · exact .refl workspace
  · apply performFor_records hidle
    intro diagram hloaded table htable
    exact (hspared diagram hloaded).indexes table (List.mem_of_find?_eq_some htable)

theorem createRelationship_records {workspace : Workspace σ κ}
    {source target : Identifier × Identifier} (hidle : workspace.session.history.group = none)
    (hspared : ∀ diagram, workspace.session.diagram? = some diagram →
      diagram.Spares (workspace.session.supply.get 0).id) :
    workspace.Records (workspace.createRelationship source target).2 := by
  unfold createRelationship
  dsimp only
  split
  · exact .refl workspace
  · apply performFor_records hidle
    intro diagram hloaded relationship hmem
    obtain rfl := List.mem_singleton.mp hmem
    exact (hspared diagram hloaded).relationship

theorem createDependency_records {workspace : Workspace σ κ}
    {tableId dependentTableId : Identifier} (hidle : workspace.session.history.group = none)
    (hspared : ∀ diagram, workspace.session.diagram? = some diagram →
      diagram.Spares (workspace.session.supply.get 0).id) :
    workspace.Records (workspace.createDependency tableId dependentTableId).2 := by
  unfold createDependency
  dsimp only
  split
  · exact .refl workspace
  · apply performFor_records hidle
    intro diagram hloaded dependency hmem
    obtain rfl := List.mem_singleton.mp hmem
    exact (hspared diagram hloaded).dependency

omit [Storage σ κ] in
theorem planFor_of_loaded [Coordinate κ] {session : Session κ} {diagram : Diagram κ}
    (hloaded : session.diagram? = some diagram) (text : String) :
    (planFor session text).1 = Reconciliation.reconcile session.supply
      (SchemaText.parse session.dialect text) diagram.tables diagram.relationships := by
  simp only [planFor, Session.tables, Session.relationships, hloaded, Option.map_some,
    Option.getD_some]

/-- A text is applied to a loaded diagram by carrying out its plan. -/
theorem applyText_of_loaded [Coordinate κ] {workspace : Workspace σ κ} {diagram : Diagram κ}
    (hloaded : workspace.session.diagram? = some diagram) (text : String) :
    let plan := (planFor workspace.session text).1
    let applied :=
      (workspace.withSession (planFor workspace.session text).2).applyPlan plan true
    workspace.applyText text = (applied.1.map fun _ => plan, applied.2) := by
  simp only [applyText, hloaded, Option.isNone_some, Bool.false_eq_true, if_false]

theorem planFor_grounded [Coordinate κ] {session : Session κ} {diagram : Diagram κ}
    (hloaded : session.diagram? = some diagram) (text : String) :
    (planFor session text).1.Grounded diagram.tables diagram.relationships session.supply := by
  rw [planFor_of_loaded hloaded]
  exact Reconciliation.reconcile_grounded session.supply
    (SchemaText.parse session.dialect text) diagram.tables diagram.relationships

/-- A plan that creates new entities records one command, or nothing happens. -/
theorem applyPlan_recorded [Coordinate κ] (workspace : Workspace σ κ) {diagram : Diagram κ}
    {plan : Plan κ} (hloaded : workspace.session.diagram? = some diagram)
    (hidle : workspace.session.history.group = none)
    (hspared : ∀ id ∈ plan.createdIds, diagram.Spares id) :
    workspace.Records (workspace.applyPlan plan true).2 := by
  have hall : diagram.SparesAll fun id => id ∈ plan.createdIds := fun id hid =>
    ⟨(hspared id hid).table, (hspared id hid).unlinked, (hspared id hid).relationship⟩
  cases hplan : plan.isEmpty with
  | true =>
      simp only [applyPlan, hloaded, hplan, Option.isNone_some, Bool.false_eq_true, if_false,
        if_true]
      exact .refl workspace
  | false =>
      obtain ⟨closing, after, group, hrecording, hclosed, -⟩ :=
        exists_recording workspace hloaded hidle hall
          (fun _ hmem => List.mem_append_left _ (List.mem_map_of_mem hmem))
          (fun _ hmem => List.mem_append_right _ (List.mem_map_of_mem hmem)) hplan
      rw [hclosed]
      by_cases hactions : group.actions = []
      · obtain ⟨hhistory, rfl⟩ := hrecording.endGroup_of_nil hidle hactions
        exact .inl ⟨hhistory, hrecording.diagram.trans hloaded.symm⟩
      · obtain ⟨command, hhistory, hconnects⟩ := hrecording.endGroup hidle hactions
        exact .inr ⟨diagram, after, command, hloaded, hrecording.diagram, hhistory, hconnects⟩

/-- A text is one command if its plan is not empty. -/
theorem applyText_records_of_spared [Coordinate κ] {workspace : Workspace σ κ} {text : String}
    {diagram : Diagram κ} (hloaded : workspace.session.diagram? = some diagram)
    (hidle : workspace.session.history.group = none)
    (hspared : ∀ id ∈ (planFor workspace.session text).1.createdIds, diagram.Spares id)
    (hplan : (planFor workspace.session text).1.isEmpty = false) :
    ∃ after command, (workspace.applyText text).2.session.diagram? = some after ∧
      (workspace.applyText text).2.session.history =
        workspace.session.history.push command ∧
      command.Connects diagram after := by
  have hall : diagram.SparesAll fun id => id ∈ (planFor workspace.session text).1.createdIds :=
    fun id hid => ⟨(hspared id hid).table, (hspared id hid).unlinked,
      (hspared id hid).relationship⟩
  rw [applyText_of_loaded hloaded]
  exact applyPlan_records (workspace.withSession (planFor workspace.session text).2) hloaded
    hidle (planFor_grounded hloaded text) hall
    (fun _ hmem => List.mem_append_left _ (List.mem_map_of_mem hmem))
    (fun _ hmem => List.mem_append_right _ (List.mem_map_of_mem hmem)) hplan

theorem spares_createdIds [Coordinate κ] {session : Session κ} {diagram : Diagram κ}
    (hloaded : session.diagram? = some diagram) (hunused : session.supply.Unused diagram)
    (text : String) : ∀ id ∈ (planFor session text).1.createdIds, diagram.Spares id := by
  have hgrounded := planFor_grounded hloaded text
  intro id hid
  apply hunused.spares
  rcases List.mem_append.mp hid with htable | hrelationship
  · obtain ⟨table, hmem, rfl⟩ := List.mem_map.mp htable
    exact hgrounded.createdTables table hmem
  · obtain ⟨relationship, hmem, rfl⟩ := List.mem_map.mp hrelationship
    exact hgrounded.createdRelationships relationship hmem

theorem applyText_records_of_nonempty [Coordinate κ] {workspace : Workspace σ κ} {text : String}
    {diagram : Diagram κ} (hloaded : workspace.session.diagram? = some diagram)
    (hidle : workspace.session.history.group = none)
    (hunused : workspace.session.supply.Unused diagram)
    (hplan : (planFor workspace.session text).1.isEmpty = false) :
    ∃ after command, (workspace.applyText text).2.session.diagram? = some after ∧
      (workspace.applyText text).2.session.history =
        workspace.session.history.push command ∧
      command.Connects diagram after :=
  applyText_records_of_spared hloaded hidle (spares_createdIds hloaded hunused text) hplan

/-- A text whose plan is empty leaves the diagram and the history alone. -/
theorem applyText_of_isEmpty [Coordinate κ] {workspace : Workspace σ κ} {text : String}
    (hplan : (planFor workspace.session text).1.isEmpty = true) :
    (workspace.applyText text).2.session.history = workspace.session.history ∧
      (workspace.applyText text).2.session.diagram? = workspace.session.diagram? := by
  unfold applyText applyPlan
  split
  · exact ⟨rfl, rfl⟩
  · simp only [hplan, if_true]
    split <;> exact ⟨rfl, rfl⟩

theorem applyText_records [Coordinate κ] {workspace : Workspace σ κ} {text : String}
    (hidle : workspace.session.history.group = none)
    (hspared : ∀ diagram, workspace.session.diagram? = some diagram →
      ∀ id ∈ (planFor workspace.session text).1.createdIds, diagram.Spares id) :
    workspace.Records (workspace.applyText text).2 := by
  cases hloaded : workspace.session.diagram? with
  | none =>
      simp only [applyText, hloaded, Option.isNone_none, if_true]
      exact .refl workspace
  | some diagram =>
      cases hplan : (planFor workspace.session text).1.isEmpty with
      | true => exact .inl (applyText_of_isEmpty hplan)
      | false =>
          obtain ⟨after, command, hafter, hhistory, hconnects⟩ :=
            applyText_records_of_spared hloaded hidle (hspared diagram hloaded) hplan
          exact .inr ⟨diagram, after, command, hloaded, hafter, hhistory, hconnects⟩

/-- Every sound edit records one command or leaves the diagram and the history alone. -/
theorem sound_records [Coordinate κ] {workspace : Workspace σ κ} {edit : Edit κ}
    (hidle : workspace.session.history.group = none) (hsound : edit.Sound workspace.session) :
    workspace.Records (edit.run workspace) := by
  have hone : (∀ diagram, workspace.session.diagram? = some diagram →
      ∀ id ∈ [(workspace.session.supply.get 0).id], diagram.Spares id) →
      ∀ diagram, workspace.session.diagram? = some diagram →
        diagram.Spares (workspace.session.supply.get 0).id :=
    fun h diagram hloaded => h diagram hloaded _ (List.mem_singleton_self _)
  cases edit with
  | mutate mutation => exact perform_records workspace hidle hsound
  | createTable attributes => exact createTable_records hidle (hone hsound)
  | createField tableId => exact createField_records hidle (hone hsound)
  | createIndex tableId => exact createIndex_records hidle (hone hsound)
  | createRelationship source target => exact createRelationship_records hidle (hone hsound)
  | createDependency tableId dependentTableId =>
      exact createDependency_records hidle (hone hsound)
  | applyText text => exact applyText_records hidle hsound

/-- An edit is sound if no identifier that is yet to be drawn is in use. -/
theorem sound_of_allowed [Coordinate κ] {session : Session κ} {edit : Edit κ}
    (h : edit.Allowed session) : edit.Sound session := by
  have hone : (∀ diagram, session.diagram? = some diagram → session.supply.Unused diagram) →
      ∀ diagram, session.diagram? = some diagram →
        ∀ id ∈ [(session.supply.get 0).id], diagram.Spares id := by
    intro hunused diagram hloaded id hid
    obtain rfl := List.mem_singleton.mp hid
    exact (hunused diagram hloaded).spares ⟨0, rfl⟩
  cases edit with
  | mutate mutation => exact h
  | applyText text =>
      exact fun diagram hloaded => spares_createdIds hloaded (h diagram hloaded) text
  | createTable attributes => exact hone h
  | createField tableId => exact hone h
  | createIndex tableId => exact hone h
  | createRelationship source target => exact hone h
  | createDependency tableId dependentTableId => exact hone h

theorem edit_records [Coordinate κ] {workspace : Workspace σ κ} {edit : Edit κ}
    (hidle : workspace.session.history.group = none) (hallowed : edit.Allowed workspace.session) :
    workspace.Records (edit.run workspace) :=
  sound_records hidle (sound_of_allowed hallowed)

end Workspace

end SchemaDiagram
