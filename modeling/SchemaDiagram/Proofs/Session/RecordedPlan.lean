import SchemaDiagram.Proofs.Session.Recording

/-!
# Plans as single commands

A plan that is grounded in the diagram at hand is carried out as one command, unless it is empty.
What its operations need is that the identifiers of the tables and relationships to be created are
not in use: this holds until the tables are added, and for relationships until those are.
-/

namespace SchemaDiagram

variable {σ κ : Type}

/-! ## Identifiers that are not in use -/

/-- No table and no relationship of a diagram carries an identifier that is yet to be drawn, and no
link stands at one. -/
def Supply.FreshFor (supply : Supply) (diagram : Diagram κ) : Prop :=
  ∀ id, supply.Draws id →
    diagram.table? id = none ∧ diagram.Unlinked id ∧ diagram.relationship? id = none

namespace Diagram

theorem table?_eq_none_iff {diagram : Diagram κ} {id : Identifier} :
    diagram.table? id = none ↔ id ∉ diagram.tables.map Table.id := by
  simp [table?, List.find?_eq_none]

theorem relationship?_eq_none_iff {diagram : Diagram κ} {id : Identifier} :
    diagram.relationship? id = none ↔ id ∉ diagram.relationships.map Relationship.id := by
  simp [relationship?, List.find?_eq_none]

/-- No table and no relationship of a diagram carries one of some identifiers, and no link stands at
one. -/
def SparesAll (ids : Identifier → Prop) (diagram : Diagram κ) : Prop :=
  ∀ id, ids id →
    diagram.table? id = none ∧ diagram.Unlinked id ∧ diagram.relationship? id = none

/-- No relationship of a diagram carries one of some identifiers. -/
def SparesLinks (ids : Identifier → Prop) (diagram : Diagram κ) : Prop :=
  ∀ id, ids id → diagram.relationship? id = none

variable {ids : Identifier → Prop} {diagram : Diagram κ}

theorem SparesAll.relationships (h : diagram.SparesAll ids) : diagram.SparesLinks ids :=
  fun id hid => (h id hid).2.2

theorem SparesAll.removeTables (h : diagram.SparesAll ids) (removed : List Identifier) :
    (Mutation.withoutTables diagram removed).SparesAll ids := by
  intro id hid
  obtain ⟨htable, hunlinked, hrelationship⟩ := h id hid
  refine ⟨?_, Mutation.unlinked_detachLinks hunlinked _, ?_⟩
  · rw [table?_eq_none_iff] at htable ⊢
    intro hmem
    obtain ⟨table, hkept, rfl⟩ := List.mem_map.mp hmem
    rw [Mutation.withoutTables, takePositioned_snd] at hkept
    exact htable (List.mem_map_of_mem (List.mem_filter.mp hkept).1)
  · rw [relationship?_eq_none_iff] at hrelationship ⊢
    intro hmem
    obtain ⟨relationship, hkept, rfl⟩ := List.mem_map.mp hmem
    simp only [Mutation.withoutTables, Mutation.detachLinks_eq, takePositioned_snd] at hkept
    exact hrelationship (List.mem_map_of_mem (List.mem_filter.mp hkept).1)

theorem SparesAll.updateTable (h : diagram.SparesAll ids) (id : Identifier)
    (patch : TablePatch κ) :
    SparesAll ids { diagram with
      tables := updateFirst (fun table => table.id == id) (fun table => table.apply patch)
        diagram.tables } := by
  intro other hother
  obtain ⟨htable, hunlinked, hrelationship⟩ := h other hother
  refine ⟨?_, hunlinked, hrelationship⟩
  rw [table?_eq_none_iff] at htable ⊢
  dsimp only
  rwa [map_updateFirst fun table => Table.id_apply table patch]

theorem SparesLinks.removeRelationships (h : diagram.SparesLinks ids)
    (removed : List Identifier) :
    SparesLinks ids { diagram with
      relationships := (takePositioned (fun relationship => removed.contains relationship.id)
        diagram.relationships).2 } := by
  intro id hid
  have hnone := h id hid
  rw [relationship?_eq_none_iff] at hnone ⊢
  intro hmem
  obtain ⟨relationship, hkept, rfl⟩ := List.mem_map.mp hmem
  rw [takePositioned_snd] at hkept
  exact hnone (List.mem_map_of_mem (List.mem_filter.mp hkept).1)

theorem SparesLinks.updateRelationship (h : diagram.SparesLinks ids) (id : Identifier)
    (patch : RelationshipPatch) :
    SparesLinks ids { diagram with
      relationships := updateFirst (fun relationship => relationship.id == id)
        (fun relationship => relationship.apply patch) diagram.relationships } := by
  intro other hother
  have hnone := h other hother
  rw [relationship?_eq_none_iff] at hnone ⊢
  dsimp only
  rwa [map_updateFirst fun relationship => Relationship.id_apply relationship patch]

end Diagram

/-! ## The operations of a plan -/

namespace Workspace

variable [Storage σ κ]

theorem updateTableChange_diagram {diagram : Diagram κ} {id : Identifier}
    {patch : TablePatch κ} {change : Change κ}
    (h : Mutation.updateTableChange diagram id patch = .ok change) :
    change.diagram = { diagram with
      tables := updateFirst (fun table => table.id == id) (fun table => table.apply patch)
        diagram.tables } := by
  obtain ⟨before, hfind, hchange⟩ := Mutation.orRefuse_bind_eq_ok_iff.mp h
  obtain rfl := Except.ok.inj hchange
  rfl

theorem updateRelationshipChange_diagram {diagram : Diagram κ} {id : Identifier}
    {patch : RelationshipPatch} {change : Change κ}
    (h : Mutation.updateRelationshipChange diagram id patch = .ok change) :
    change.diagram = { diagram with
      relationships := updateFirst (fun relationship => relationship.id == id)
        (fun relationship => relationship.apply patch) diagram.relationships } := by
  obtain ⟨before, hfind, hchange⟩ := Mutation.orRefuse_bind_eq_ok_iff.mp h
  obtain rfl := Except.ok.inj hchange
  rfl

theorem continues_updateTable {property : Diagram κ → Prop}
    (h : ∀ diagram id patch time, property diagram → property (Diagram.touched { diagram with
      tables := updateFirst (fun table => table.id == id) (fun table => table.apply patch)
        diagram.tables } time)) (id : Identifier) (patch : TablePatch κ) :
    Continues (σ := σ) property property
      fun workspace => workspace.perform (.updateTable id patch) true := by
  apply continues_perform
  · exact fun _ _ => trivial
  · exact fun _ hbefore => hbefore
  · intro diagram change time hbefore hchange
    rw [updateTableChange_diagram hchange]
    exact h diagram id patch time hbefore

/-- Finding places for tables consists of updates of tables. -/
theorem continues_placeTables [Coordinate κ] {property : Diagram κ → Prop}
    (h : ∀ diagram id patch time, property diagram → property (Diagram.touched { diagram with
      tables := updateFirst (fun table => table.id == id) (fun table => table.apply patch)
        diagram.tables } time)) (ids : List Identifier) :
    Continues (σ := σ) property property (placeTables ids true) := by
  intro workspace start history present group hrecording hbefore
  refine continues_runAll ?_ workspace start history present group hrecording hbefore
  intro operation hoperation
  obtain ⟨position, -, rfl⟩ := List.mem_map.mp hoperation
  intro workspace start history present group hrecording hbefore
  obtain ⟨present', group', hnext, hafter⟩ :=
    continues_updateTable h position.tableId _ workspace start history present group hrecording
      hbefore
  exact ⟨present', group', hnext.emit _, hafter⟩

omit [Storage σ κ] in
/-- An operation that is left out on a condition. -/
theorem continues_unless {before after : Diagram κ → Prop} {condition : Prop}
    [Decidable condition] {operations : List (Workspace σ κ → Answer σ κ Unit)}
    (hkeeps : ∀ diagram, before diagram → after diagram)
    (h : Continues before after fun workspace => workspace.runAll operations) :
    Continues before after
      fun workspace => workspace.runAll (if condition then [] else operations) := by
  split
  · intro workspace start history present group hrecording hbefore
    exact ⟨present, group, hrecording, hkeeps present hbefore⟩
  · exact h

variable {drawn : Identifier → Prop}

theorem continues_removeTables (ids : List Identifier) :
    Continues (σ := σ) (Diagram.SparesAll (κ := κ) drawn) (Diagram.SparesAll drawn)
      fun workspace => workspace.perform (.removeTables ids) true := by
  apply continues_perform
  · exact fun _ _ => trivial
  · exact fun _ hbefore => hbefore
  · intro diagram change time hbefore hchange
    rw [(Mutation.removeTablesChange_eq_ok hchange).1]
    exact hbefore.removeTables ids

/-- Once the tables are added, only the identifiers of relationships are still spared. -/
theorem continues_addTables {tables : List (Table κ)} (h : ∀ table ∈ tables, drawn table.id) :
    Continues (σ := σ) (Diagram.SparesAll drawn) (Diagram.SparesLinks drawn)
      fun workspace => workspace.perform (.addTables tables) true := by
  apply continues_perform
  · intro diagram hbefore table hmem
    obtain ⟨htable, hunlinked, -⟩ := hbefore table.id (h table hmem)
    exact ⟨htable, hunlinked⟩
  · exact fun _ hbefore => hbefore.relationships
  · intro diagram change time hbefore hchange
    obtain rfl := Except.ok.inj hchange
    exact hbefore.relationships

theorem continues_removeRelationships (ids : List Identifier) :
    Continues (σ := σ) (Diagram.SparesLinks (κ := κ) drawn) (Diagram.SparesLinks drawn)
      fun workspace => workspace.perform (.removeRelationships ids) true := by
  apply continues_perform
  · exact fun _ _ => trivial
  · exact fun _ hbefore => hbefore
  · intro diagram change time hbefore hchange
    rw [(Mutation.removeRelationshipsChange_eq_ok hchange).1]
    exact hbefore.removeRelationships ids

theorem continues_updateRelationship (id : Identifier) (patch : RelationshipPatch) :
    Continues (σ := σ) (Diagram.SparesLinks (κ := κ) drawn) (Diagram.SparesLinks drawn)
      fun workspace => workspace.perform (.updateRelationship id patch) true := by
  apply continues_perform
  · exact fun _ _ => trivial
  · exact fun _ hbefore => hbefore
  · intro diagram change time hbefore hchange
    rw [updateRelationshipChange_diagram hchange]
    exact hbefore.updateRelationship id patch

theorem continues_addRelationships {relationships : List Relationship}
    (h : ∀ relationship ∈ relationships, drawn relationship.id) :
    Continues (σ := σ) (Diagram.SparesLinks (κ := κ) drawn) (fun _ => True)
      fun workspace => workspace.perform (.addRelationships relationships) true := by
  apply continues_perform
  · exact fun diagram hbefore relationship hmem =>
      hbefore relationship.id (h relationship hmem)
  · exact fun _ _ => trivial
  · exact fun _ _ _ _ _ => trivial

/-- Every step of a plan that creates new entities is recorded where it can be undone and
redone. -/
theorem continues_planOperations [Coordinate κ] {plan : Plan κ}
    (htables : ∀ table ∈ plan.createdTables, drawn table.id)
    (hrelationships : ∀ relationship ∈ plan.createdRelationships, drawn relationship.id) :
    Continues (Diagram.SparesAll drawn) (fun _ => True)
      fun workspace : Workspace σ κ => workspace.runAll (planOperations plan true) := by
  have hupdateTable : ∀ update : Identifier × TablePatch κ, Continues (σ := σ)
      (Diagram.SparesAll drawn) (Diagram.SparesAll drawn)
      fun workspace => workspace.perform (.updateTable update.1 update.2) true := fun update =>
    continues_updateTable (fun _ id patch _ hbefore => hbefore.updateTable id patch) _ _
  have hplace : Continues (σ := σ) (Diagram.SparesLinks (κ := κ) drawn)
      (Diagram.SparesLinks drawn) (placeTables (plan.createdTables.map Table.id) true) :=
    continues_placeTables (fun _ _ _ _ hbefore => hbefore) _
  unfold planOperations
  refine .append (Diagram.SparesLinks drawn) (.append (Diagram.SparesLinks drawn)
    (.append (Diagram.SparesLinks drawn) (.append (Diagram.SparesAll drawn)
      (.append (Diagram.SparesAll drawn) ?_ ?_) ?_) ?_) ?_) ?_
  · exact continues_unless (fun _ hbefore => hbefore) (continues_removeTables _).single
  · apply continues_runAll
    intro operation hoperation
    obtain ⟨update, -, rfl⟩ := List.mem_map.mp hoperation
    exact hupdateTable update
  · exact continues_unless (fun _ hbefore => hbefore.relationships)
      ((continues_addTables htables).pair hplace)
  · exact continues_unless (fun _ hbefore => hbefore) (continues_removeRelationships _).single
  · apply continues_runAll
    intro operation hoperation
    obtain ⟨update, -, rfl⟩ := List.mem_map.mp hoperation
    exact continues_updateRelationship update.1 update.2
  · exact continues_unless (fun _ _ => trivial)
      (continues_addRelationships hrelationships).single

/-! ## At least one step -/

/-- An operation that keeps what an open group has collected. -/
def Collects (operation : Workspace σ κ → Answer σ κ Unit) : Prop :=
  ∀ workspace group, workspace.session.history.group = some group → ∃ group',
    (operation workspace).2.session.history.group = some group' ∧
      group.actions <+: group'.actions

/-- A mutation that is carried out adds its step to the open group. -/
theorem perform_group {workspace : Workspace σ κ} {diagram : Diagram κ} {mutation : Mutation κ}
    {change : Change κ} {group : Group (Step κ)}
    (hloaded : workspace.session.diagram? = some diagram)
    (hchange : mutation.change diagram = .ok change)
    (hgroup : workspace.session.history.group = some group) :
    (workspace.perform mutation true).2.session.history.group =
      some (group.add (.step change.step) diagram.updatedAt
        (workspace.session.supply.get 0).time) := by
  rw [perform_session true hloaded hchange]
  simp only [Session.commit, Session.recordStep, Session.emit, Session.draw, if_true,
    History.record, hgroup]

theorem collects_perform (mutation : Mutation κ) :
    Collects (σ := σ) fun workspace => workspace.perform mutation true := by
  intro workspace group hgroup
  dsimp only
  cases hloaded : workspace.session.diagram? with
  | none =>
      refine ⟨group, ?_, List.prefix_refl _⟩
      rwa [perform_of_unloaded mutation true hloaded]
  | some diagram =>
      cases hchange : mutation.change diagram with
      | error error =>
          rw [perform_of_refusal true hloaded hchange]
          exact ⟨group, hgroup, List.prefix_refl _⟩
      | ok change =>
          exact ⟨_, perform_group hloaded hchange hgroup, List.prefix_append _ _⟩

omit [Storage σ κ] in
theorem collects_runAll {operations : List (Workspace σ κ → Answer σ κ Unit)}
    (h : ∀ operation ∈ operations, Collects operation) :
    Collects fun workspace => workspace.runAll operations := by
  induction operations with
  | nil => exact fun workspace group hgroup => ⟨group, hgroup, List.prefix_refl _⟩
  | cons operation rest ih =>
      intro workspace group hgroup
      obtain ⟨next, hnext, hfirst⟩ := h operation List.mem_cons_self workspace group hgroup
      obtain ⟨last, hlast, hrest⟩ :=
        ih (fun other hother => h other (List.mem_cons_of_mem _ hother)) _ next hnext
      exact ⟨last, hlast, hfirst.trans hrest⟩

theorem collects_placeTables [Coordinate κ] (ids : List Identifier) :
    Collects (σ := σ) (placeTables (κ := κ) ids true) := by
  intro workspace
  refine collects_runAll ?_ workspace
  intro operation hoperation
  obtain ⟨position, -, rfl⟩ := List.mem_map.mp hoperation
  intro workspace
  exact collects_perform (.updateTable position.tableId
    { position := some (position.x, position.y) }) workspace

theorem collects_planOperations [Coordinate κ] (plan : Plan κ) :
    ∀ operation ∈ planOperations (σ := σ) plan true, Collects operation := by
  intro operation hoperation
  simp only [planOperations, List.mem_append, List.mem_map] at hoperation
  rcases hoperation with ((((h | ⟨update, -, rfl⟩) | h) | h) | ⟨update, -, rfl⟩) | h
  · split at h
    · exact absurd h List.not_mem_nil
    · obtain rfl := List.mem_singleton.mp h
      exact collects_perform _
  · exact collects_perform _
  · split at h
    · exact absurd h List.not_mem_nil
    · rcases List.mem_cons.mp h with rfl | h
      · exact collects_perform _
      · obtain rfl := List.mem_singleton.mp h
        exact collects_placeTables _
  · split at h
    · exact absurd h List.not_mem_nil
    · obtain rfl := List.mem_singleton.mp h
      exact collects_perform _
  · exact collects_perform _
  · split at h
    · exact absurd h List.not_mem_nil
    · obtain rfl := List.mem_singleton.mp h
      exact collects_perform _

theorem exists_change_removeTables {diagram : Diagram κ} {ids : List Identifier}
    {id : Identifier} (hid : id ∈ ids) (hlive : id ∈ diagram.tables.map Table.id) :
    ∃ change, (Mutation.removeTables ids).change diagram = .ok change := by
  obtain ⟨change, hchange, -⟩ := Mutation.removeTables_leads diagram ids fun _ =>
    takePositioned_ne_nil hid hlive
  exact ⟨change, hchange⟩

theorem exists_change_removeRelationships {diagram : Diagram κ} {ids : List Identifier}
    {id : Identifier} (hid : id ∈ ids)
    (hlive : id ∈ diagram.relationships.map Relationship.id) :
    ∃ change, (Mutation.removeRelationships ids).change diagram = .ok change := by
  obtain ⟨change, hchange, -⟩ := Mutation.removeRelationships_leads diagram ids fun _ =>
    takePositioned_ne_nil hid hlive
  exact ⟨change, hchange⟩

theorem exists_change_updateTable {diagram : Diagram κ} {id : Identifier} (patch : TablePatch κ)
    (hlive : id ∈ diagram.tables.map Table.id) :
    ∃ change, (Mutation.updateTable id patch).change diagram = .ok change := by
  cases htable : diagram.table? id with
  | none => exact absurd hlive (Diagram.table?_eq_none_iff.mp htable)
  | some table =>
      obtain ⟨change, hchange, -⟩ := Mutation.updateTable_leads htable patch
      exact ⟨change, hchange⟩

theorem exists_change_updateRelationship {diagram : Diagram κ} {id : Identifier}
    (patch : RelationshipPatch) (hlive : id ∈ diagram.relationships.map Relationship.id) :
    ∃ change, (Mutation.updateRelationship id patch).change diagram = .ok change := by
  cases hrelationship : diagram.relationship? id with
  | none => exact absurd hlive (Diagram.relationship?_eq_none_iff.mp hrelationship)
  | some relationship =>
      obtain ⟨change, hchange, -⟩ := Mutation.updateRelationship_leads hrelationship patch
      exact ⟨change, hchange⟩

/-- The first operation of a grounded plan is a mutation that is not refused. -/
theorem planOperations_start [Coordinate κ] {plan : Plan κ} {diagram : Diagram κ}
    {supply : Supply} (hplan : plan.Grounded diagram.tables diagram.relationships supply)
    (hnonempty : plan.isEmpty = false) :
    ∃ mutation rest, planOperations (σ := σ) plan true =
        (fun workspace => workspace.perform mutation true) :: rest ∧
      ∃ change, mutation.change diagram = .ok change := by
  unfold planOperations
  cases hdeletedTables : plan.deletedTables with
  | cons id rest =>
      exact ⟨_, _, rfl, exists_change_removeTables List.mem_cons_self
        (hplan.deletedTables id (by simp [hdeletedTables]))⟩
  | nil =>
  cases hupdatedTables : plan.updatedTables with
  | cons update rest =>
      exact ⟨_, _, rfl, exists_change_updateTable update.2
        (hplan.updatedTables update (by simp [hupdatedTables]))⟩
  | nil =>
  cases hcreatedTables : plan.createdTables with
  | cons table rest => exact ⟨_, _, rfl, _, rfl⟩
  | nil =>
  cases hdeletedRelationships : plan.deletedRelationships with
  | cons id rest =>
      exact ⟨_, _, rfl, exists_change_removeRelationships List.mem_cons_self
        (hplan.deletedRelationships id (by simp [hdeletedRelationships]))⟩
  | nil =>
  cases hupdatedRelationships : plan.updatedRelationships with
  | cons update rest =>
      exact ⟨_, _, rfl, exists_change_updateRelationship update.2
        (hplan.updatedRelationships update (by simp [hupdatedRelationships]))⟩
  | nil =>
  cases hcreatedRelationships : plan.createdRelationships with
  | cons relationship rest => exact ⟨_, _, rfl, _, rfl⟩
  | nil =>
      simp [Plan.isEmpty, Plan.size, hdeletedTables, hupdatedTables, hcreatedTables,
        hdeletedRelationships, hupdatedRelationships, hcreatedRelationships] at hnonempty

/-! ## One command -/

omit [Storage σ κ] in
/-- Closing a group that has collected something records one command. -/
theorem Recording.endGroup {workspace : Workspace σ κ} {start present : Diagram κ}
    {history : History (Step κ)} {group : Group (Step κ)}
    (h : workspace.Recording start history present group) (hidle : history.group = none)
    (hactions : group.actions ≠ []) :
    ∃ command, (workspace.mapHistory History.endGroup).session.history = history.push command ∧
      command.Connects start present := by
  obtain ⟨action, hcommand, hsteps⟩ := Group.command?_eq_some (h.bounds hactions)
  refine ⟨⟨action, start.updatedAt, present.updatedAt⟩, ?_, ⟨hsteps ▸ h.trail, rfl, rfl⟩⟩
  change History.endGroup workspace.session.history = _
  rw [h.history]
  simp only [History.endGroup, hcommand, ← hidle]

omit [Storage σ κ] in
/-- Closing a group that has collected nothing records nothing, and nothing has happened. -/
theorem Recording.endGroup_of_nil {workspace : Workspace σ κ} {start present : Diagram κ}
    {history : History (Step κ)} {group : Group (Step κ)}
    (h : workspace.Recording start history present group) (hidle : history.group = none)
    (hactions : group.actions = []) :
    (workspace.mapHistory History.endGroup).session.history = history ∧ present = start := by
  obtain ⟨hbounds, hsame⟩ := h.unbounded hactions
  refine ⟨?_, hsame⟩
  change History.endGroup workspace.session.history = _
  rw [h.history]
  simp only [History.endGroup, Group.command?, hbounds, Option.map_none, ← hidle]

/-- All that a plan does with history happens within one group. -/
theorem exists_recording [Coordinate κ] (workspace : Workspace σ κ) {diagram : Diagram κ}
    {plan : Plan κ} (hloaded : workspace.session.diagram? = some diagram)
    (hidle : workspace.session.history.group = none)
    {drawn : Identifier → Prop} (hspared : diagram.SparesAll drawn)
    (htables : ∀ table ∈ plan.createdTables, drawn table.id)
    (hrelationships : ∀ relationship ∈ plan.createdRelationships, drawn relationship.id)
    (hnonempty : plan.isEmpty = false) :
    ∃ closing after group, Recording closing diagram workspace.session.history after group ∧
      (workspace.applyPlan plan true).2 = closing.mapHistory History.endGroup ∧
      closing = ((workspace.mapHistory History.beginGroup).runAll
        (planOperations plan true)).2 := by
  have hopened : (workspace.mapHistory History.beginGroup).Recording diagram
      workspace.session.history diagram ⟨[], none⟩ := by
    refine ⟨hloaded, ?_, ⟨diagram.updatedAt, rfl⟩, fun h => absurd rfl h, fun _ => ⟨rfl, rfl⟩⟩
    simp only [mapHistory, withSession, History.beginGroup, hidle]
  obtain ⟨after, group, hrecording, -⟩ :=
    continues_planOperations htables hrelationships _ _ _ _ _ hopened hspared
  refine ⟨_, after, group, hrecording, ?_, rfl⟩
  simp only [applyPlan, hloaded, hnonempty, Option.isNone_some, Bool.false_eq_true, if_false,
    if_true]

/-- A grounded plan that is not empty is carried out as one command that connects the diagram
before it with the diagram after it. -/
theorem applyPlan_records [Coordinate κ] (workspace : Workspace σ κ) {diagram : Diagram κ}
    {plan : Plan κ} {supply : Supply} (hloaded : workspace.session.diagram? = some diagram)
    (hidle : workspace.session.history.group = none)
    (hplan : plan.Grounded diagram.tables diagram.relationships supply)
    {drawn : Identifier → Prop} (hspared : diagram.SparesAll drawn)
    (htables : ∀ table ∈ plan.createdTables, drawn table.id)
    (hrelationships : ∀ relationship ∈ plan.createdRelationships, drawn relationship.id)
    (hnonempty : plan.isEmpty = false) :
    ∃ after command,
      (workspace.applyPlan plan true).2.session.diagram? = some after ∧
      (workspace.applyPlan plan true).2.session.history =
        workspace.session.history.push command ∧
      command.Connects diagram after := by
  obtain ⟨closing, after, group, hrecording, hclosed, hclosing⟩ :=
    exists_recording workspace hloaded hidle hspared htables hrelationships hnonempty
  have hactions : group.actions ≠ [] := by
    obtain ⟨mutation, rest, hoperations, change, hchange⟩ :=
      planOperations_start (σ := σ) hplan hnonempty
    have hcollects := collects_planOperations (σ := σ) plan
    rw [hoperations] at hclosing hcollects
    have hopened : (workspace.mapHistory History.beginGroup).session.history.group =
        some ⟨[], none⟩ := by
      simp only [mapHistory, withSession, History.beginGroup, hidle]
    have hstart : (workspace.mapHistory History.beginGroup).session.diagram? = some diagram :=
      hloaded
    have hfirst := perform_group hstart hchange hopened
    obtain ⟨last, hlast, hprefix⟩ := collects_runAll
      (fun operation hoperation => hcollects operation (List.mem_cons_of_mem _ hoperation)) _ _
      hfirst
    have hsame : some group = some last := by
      rw [hclosing] at hrecording
      exact (congrArg History.group hrecording.history).symm.trans hlast
    obtain rfl := Option.some.inj hsame
    intro hempty
    rw [hempty] at hprefix
    exact absurd (List.prefix_nil.mp hprefix) (by simp [Group.add])
  obtain ⟨command, hhistory, hconnects⟩ := hrecording.endGroup hidle hactions
  rw [hclosed]
  exact ⟨after, command, hrecording.diagram, hhistory, hconnects⟩

end Workspace

end SchemaDiagram
