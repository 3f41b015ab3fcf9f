import SchemaDiagram.Proofs.Reconciliation.Outcome
import SchemaDiagram.Proofs.Session.RecordedPlan

/-!
# What carrying out a plan leaves

The operations of a plan change the tables and the relationships of the loaded diagram, one after
another and whatever becomes of the writes.  All of it is settled by the plan, except for where the
created tables are put.
-/

namespace SchemaDiagram

open Reconciliation

variable {σ κ : Type}

/-! ## Tables that are moved -/

/-- A table is only moved, and only if its identifier is a given one. -/
structure Table.Moved (ids : List Identifier) (before after : Table κ) : Prop where
  same : ∃ x y, after = before.withPosition x y
  still : before.id ∉ ids → after = before

theorem Table.Moved.refl (ids : List Identifier) (table : Table κ) : table.Moved ids table :=
  ⟨⟨table.x, table.y, rfl⟩, fun _ => rfl⟩

theorem Table.Moved.trans {ids : List Identifier} {first second third : Table κ}
    (h : first.Moved ids second) (h' : second.Moved ids third) : first.Moved ids third := by
  obtain ⟨x, y, rfl⟩ := h.same
  obtain ⟨x', y', rfl⟩ := h'.same
  refine ⟨⟨x', y', rfl⟩, fun hout => ?_⟩
  have hfirst : first.withPosition x y = first := h.still hout
  rw [h'.still hout, hfirst]

theorem forall₂_moved_refl (ids : List Identifier) (tables : List (Table κ)) :
    List.Forall₂ (Table.Moved ids) tables tables :=
  List.forall₂_same.mpr fun table _ => Table.Moved.refl ids table

/-- Moving the first table with one of the given identifiers. -/
theorem forall₂_moved_updateFirst {ids : List Identifier} {id : Identifier} (hid : id ∈ ids)
    (place : κ × κ) (tables : List (Table κ)) :
    List.Forall₂ (Table.Moved ids) tables
      (updateFirst (fun table => table.id == id)
        (fun table => table.apply { position := some place }) tables) := by
  induction tables with
  | nil => exact .nil
  | cons table rest ih =>
      by_cases hsame : table.id = id
      · rw [updateFirst, if_pos (beq_iff_eq.mpr hsame)]
        refine .cons ⟨⟨place.1, place.2, rfl⟩, fun hout => ?_⟩ (forall₂_moved_refl ids rest)
        rw [hsame] at hout
        exact absurd hid hout
      · rw [updateFirst, if_neg (by simpa using hsame)]
        exact .cons (.refl ids table) ih

/-- Places are found for listed tables only. -/
theorem Layout.mem_of_mem_placeAll [Coordinate κ] {config : LayoutConfig κ}
    {tables : List (Table κ)} {relationships : List Relationship}
    {positions : List (Identifier × κ × κ)} {ids : List Identifier} {place : TablePosition κ}
    (h : place ∈ placeAll config tables relationships positions ids) : place.tableId ∈ ids := by
  induction ids generalizing positions with
  | nil => exact absurd h List.not_mem_nil
  | cons id rest ih =>
      rw [placeAll] at h
      split at h
      · rcases List.mem_cons.mp h with rfl | hrest
        · exact List.mem_cons_self
        · exact List.mem_cons_of_mem _ (ih hrest)
      · exact List.mem_cons_of_mem _ (ih h)

/-! ## Single operations -/

namespace Workspace

/-- The loaded diagram has these tables and these relationships. -/
def Shows (workspace : Workspace σ κ) (tables : List (Table κ))
    (relationships : List Relationship) : Prop :=
  ∃ diagram, workspace.session.diagram? = some diagram ∧ diagram.tables = tables ∧
    diagram.relationships = relationships

variable [Storage σ κ] {workspace : Workspace σ κ} {tables : List (Table κ)}
  {relationships : List Relationship}

theorem shows_perform {before : Diagram κ} {mutation : Mutation κ} {change : Change κ}
    (hloaded : workspace.session.diagram? = some before)
    (hchange : mutation.change before = .ok change) (record : Bool) :
    (workspace.perform mutation record).2.Shows change.diagram.tables
      change.diagram.relationships := by
  rw [Shows, perform_session record hloaded hchange]
  cases record with
  | false => exact ⟨_, rfl, rfl, rfl⟩
  | true => exact ⟨_, rfl, rfl, rfl⟩

omit [Storage σ κ] in
/-- Links stand at deleted tables if they stand at those among them that are there. -/
theorem relationships_withoutTables {diagram : Diagram κ} {ids : List Identifier}
    (hlive : ∀ id ∈ ids, id ∈ diagram.tables.map Table.id) :
    (Mutation.withoutTables diagram ids).relationships =
      surviving ids diagram.relationships := by
  have htaken : ∀ id, ((takePositioned (fun table => ids.contains table.id)
      diagram.tables).1.map fun entry => entry.2.id).contains id = ids.contains id := by
    intro id
    rw [map_key_takePositioned, Bool.eq_iff_iff]
    simp only [List.contains_eq_mem, decide_eq_true_eq, List.mem_map, List.mem_filter]
    constructor
    · rintro ⟨table, ⟨-, hid⟩, rfl⟩
      exact hid
    · intro hid
      obtain ⟨table, hmem, rfl⟩ := List.mem_map.mp (hlive id hid)
      exact ⟨table, ⟨hmem, hid⟩, rfl⟩
  simp only [Mutation.withoutTables, Mutation.detachLinks_eq, takePositioned_snd, surviving,
    Relationship.touchesAny, htaken]

theorem Shows.removeTables (h : workspace.Shows tables relationships) {ids : List Identifier}
    (hlive : ∀ id ∈ ids, id ∈ tables.map Table.id) (record : Bool) :
    (workspace.perform (.removeTables ids) record).2.Shows
      (tables.filter fun table => !ids.contains table.id) (surviving ids relationships) := by
  obtain ⟨diagram, hloaded, rfl, rfl⟩ := h
  have htaken : ids ≠ [] →
      (takePositioned (fun table => ids.contains table.id) diagram.tables).1 ≠ [] := by
    intro hne
    obtain ⟨id, hid⟩ := List.exists_mem_of_ne_nil ids hne
    exact takePositioned_ne_nil hid (hlive id hid)
  obtain ⟨change, hchange, hafter⟩ := Mutation.removeTables_leads diagram ids htaken
  have hshows := shows_perform hloaded hchange record
  rw [hafter, relationships_withoutTables hlive] at hshows
  simpa only [Mutation.withoutTables, takePositioned_snd] using hshows

theorem Shows.addTables (h : workspace.Shows tables relationships) (more : List (Table κ))
    (record : Bool) :
    (workspace.perform (.addTables more) record).2.Shows (tables ++ more) relationships := by
  obtain ⟨diagram, hloaded, rfl, rfl⟩ := h
  have hchange : (Mutation.addTables more).change diagram = .ok _ := rfl
  have hshows := shows_perform hloaded hchange record
  simpa only [Mutation.insertTablesChange, insertPositioned_positionedFrom_length] using hshows

/-- An update of a table that is not there is refused, and changes nothing. -/
theorem Shows.updateTable (h : workspace.Shows tables relationships) (id : Identifier)
    (patch : TablePatch κ) (record : Bool) :
    (workspace.perform (.updateTable id patch) record).2.Shows
      (updateFirst (fun table => table.id == id) (fun table => table.apply patch) tables)
      relationships := by
  obtain ⟨diagram, hloaded, rfl, rfl⟩ := h
  cases hfind : diagram.table? id with
  | none =>
      have hrefused : (Mutation.updateTable id patch).change diagram =
          .error ⟨.tableNotFound id, diagram⟩ := by
        simp only [Mutation.change, Mutation.updateTableChange, hfind]
        rfl
      rw [perform_of_refusal record hloaded hrefused, updateFirst_of_none]
      · exact ⟨diagram, hloaded, rfl, rfl⟩
      · intro table hmem
        simpa using List.find?_eq_none.mp hfind table hmem
  | some table =>
      obtain ⟨change, hchange, hafter⟩ := Mutation.updateTable_leads hfind patch
      have hshows := shows_perform hloaded hchange record
      rwa [hafter] at hshows

/-- Relationships that are not there need not be removed. -/
theorem Shows.removeRelationships (h : workspace.Shows tables relationships)
    (ids : List Identifier) (record : Bool) :
    (workspace.perform (.removeRelationships ids) record).2.Shows tables
      (relationships.filter fun relationship => !ids.contains relationship.id) := by
  obtain ⟨diagram, hloaded, rfl, rfl⟩ := h
  cases hchange : (Mutation.removeRelationships ids).change diagram with
  | error error =>
      have hnone : (takePositioned (fun relationship => ids.contains relationship.id)
          diagram.relationships).1 = [] := by
        by_contra hsome
        obtain ⟨change, hok, -⟩ := Mutation.removeRelationships_leads diagram ids fun _ => hsome
        rw [hchange] at hok
        cases hok
      rw [perform_of_refusal record hloaded hchange, List.filter_eq_self.mpr]
      · exact ⟨diagram, hloaded, rfl, rfl⟩
      · intro relationship hmem
        rw [(takePositioned_fst_eq_nil_iff _ _).mp hnone relationship hmem]
        rfl
  | ok change =>
      have hshows := shows_perform hloaded hchange record
      rw [(Mutation.removeRelationshipsChange_eq_ok hchange).1] at hshows
      simpa only [takePositioned_snd] using hshows

theorem Shows.updateRelationship (h : workspace.Shows tables relationships) (id : Identifier)
    (patch : RelationshipPatch) (record : Bool) :
    (workspace.perform (.updateRelationship id patch) record).2.Shows tables
      (updateFirst (fun relationship => relationship.id == id)
        (fun relationship => relationship.apply patch) relationships) := by
  obtain ⟨diagram, hloaded, rfl, rfl⟩ := h
  cases hfind : diagram.relationship? id with
  | none =>
      have hrefused : (Mutation.updateRelationship id patch).change diagram =
          .error ⟨.relationshipNotFound id, diagram⟩ := by
        simp only [Mutation.change, Mutation.updateRelationshipChange, hfind]
        rfl
      rw [perform_of_refusal record hloaded hrefused, updateFirst_of_none]
      · exact ⟨diagram, hloaded, rfl, rfl⟩
      · intro relationship hmem
        simpa using List.find?_eq_none.mp hfind relationship hmem
  | some relationship =>
      obtain ⟨change, hchange, hafter⟩ := Mutation.updateRelationship_leads hfind patch
      have hshows := shows_perform hloaded hchange record
      rwa [hafter] at hshows

theorem Shows.addRelationships (h : workspace.Shows tables relationships)
    (more : List Relationship) (record : Bool) :
    (workspace.perform (.addRelationships more) record).2.Shows tables
      (relationships ++ more) := by
  obtain ⟨diagram, hloaded, rfl, rfl⟩ := h
  have hchange : (Mutation.addRelationships more).change diagram = .ok _ := rfl
  have hshows := shows_perform hloaded hchange record
  simpa only [Mutation.insertRelationshipsChange, insertPositioned_positionedFrom_length]
    using hshows

/-! ## Runs of operations -/

theorem Shows.updateTables (h : workspace.Shows tables relationships)
    (updates : List (Identifier × TablePatch κ)) (record : Bool) :
    (workspace.runAll (updates.map fun update workspace =>
      workspace.perform (.updateTable update.1 update.2) record)).2.Shows
        (updateAll Table.id Table.apply tables updates) relationships := by
  induction updates generalizing workspace tables with
  | nil => exact h
  | cons update rest ih =>
      have hfirst := h.updateTable update.1 update.2 record
      exact ih hfirst

theorem Shows.updateRelationships (h : workspace.Shows tables relationships)
    (updates : List (Identifier × RelationshipPatch)) (record : Bool) :
    (workspace.runAll (updates.map fun update workspace =>
      workspace.perform (.updateRelationship update.1 update.2) record)).2.Shows tables
        (updateAll Relationship.id Relationship.apply relationships updates) := by
  induction updates generalizing workspace relationships with
  | nil => exact h
  | cons update rest ih =>
      have hfirst := h.updateRelationship update.1 update.2 record
      exact ih hfirst

omit [Storage σ κ] in
theorem Shows.emit (h : workspace.Shows tables relationships) (events : List Event) :
    (workspace.withSession (workspace.session.emit events)).Shows tables relationships := h

/-- Finding places moves tables, each of them among the listed ones. -/
theorem Shows.placeTables [Coordinate κ] (h : workspace.Shows tables relationships)
    (ids : List Identifier) (record : Bool) :
    ∃ moved, (Workspace.placeTables ids record workspace).2.Shows moved relationships ∧
      List.Forall₂ (Table.Moved ids) tables moved := by
  rw [Workspace.placeTables]
  dsimp only
  generalize hpositions : Layout.place workspace.session.layout workspace.session.visibleTables
    workspace.session.relationships ids = positions
  have hlisted : ∀ position ∈ positions, position.tableId ∈ ids := by
    intro position hmem
    rw [← hpositions] at hmem
    exact Layout.mem_of_mem_placeAll hmem
  clear hpositions
  induction positions generalizing workspace tables with
  | nil => exact ⟨tables, h, forall₂_moved_refl ids tables⟩
  | cons position rest ih =>
      have hfirst := h.updateTable position.tableId
        { position := some (position.x, position.y) } record
      have hmoved := forall₂_moved_updateFirst (hlisted position List.mem_cons_self)
        (position.x, position.y) tables
      obtain ⟨moved, hshows, hrest⟩ := ih (hfirst.emit [.focusTable position.tableId])
        fun other hother => hlisted other (List.mem_cons_of_mem _ hother)
      refine ⟨moved, hshows, forall₂_trans ?_ hmoved hrest⟩
      exact fun _ _ _ hfirst hsecond => hfirst.trans hsecond

/-! ## All operations of a plan -/

theorem Shows.deleteTables (h : workspace.Shows tables relationships) {ids : List Identifier}
    (hlive : ∀ id ∈ ids, id ∈ tables.map Table.id) (record : Bool) :
    (workspace.runAll (if ids.isEmpty then []
      else [fun workspace => workspace.perform (.removeTables ids) record])).2.Shows
        (tables.filter fun table => !ids.contains table.id) (surviving ids relationships) := by
  cases ids with
  | nil => simpa [surviving, Relationship.touchesAny, runAll] using h
  | cons id rest =>
      rw [List.isEmpty_cons, if_neg Bool.false_ne_true, runAll_singleton]
      exact h.removeTables hlive record

theorem Shows.createTables [Coordinate κ] (h : workspace.Shows tables relationships)
    (created : List (Table κ)) (record : Bool) :
    ∃ moved, (workspace.runAll (if created.isEmpty then []
        else [fun workspace => workspace.perform (.addTables created) record,
          Workspace.placeTables (created.map Table.id) record])).2.Shows moved relationships ∧
      List.Forall₂ (Table.Moved (created.map Table.id)) (tables ++ created) moved := by
  cases created with
  | nil =>
      refine ⟨tables, h, ?_⟩
      rw [List.append_nil]
      exact forall₂_moved_refl _ tables
  | cons table rest =>
      have hadded := h.addTables (table :: rest) record
      exact hadded.placeTables ((table :: rest).map Table.id) record

theorem Shows.deleteRelationships (h : workspace.Shows tables relationships)
    (ids : List Identifier) (record : Bool) :
    (workspace.runAll (if ids.isEmpty then []
      else [fun workspace => workspace.perform (.removeRelationships ids) record])).2.Shows tables
        (relationships.filter fun relationship => !ids.contains relationship.id) := by
  cases ids with
  | nil => simpa [runAll] using h
  | cons id rest =>
      rw [List.isEmpty_cons, if_neg Bool.false_ne_true, runAll_singleton]
      exact h.removeRelationships (id :: rest) record

theorem Shows.createRelationships (h : workspace.Shows tables relationships)
    (created : List Relationship) (record : Bool) :
    (workspace.runAll (if created.isEmpty then []
      else [fun workspace => workspace.perform (.addRelationships created) record])).2.Shows
        tables (relationships ++ created) := by
  cases created with
  | nil => simpa [runAll] using h
  | cons relationship rest =>
      rw [List.isEmpty_cons, if_neg Bool.false_ne_true, runAll_singleton]
      exact h.addRelationships (relationship :: rest) record

/-- The operations of a plan leave what the plan says, with the created tables moved. -/
theorem Shows.planOperations [Coordinate κ] (h : workspace.Shows tables relationships)
    {plan : Plan κ} (hlive : ∀ id ∈ plan.deletedTables, id ∈ tables.map Table.id)
    (record : Bool) :
    ∃ moved, (workspace.runAll (Workspace.planOperations plan record)).2.Shows moved
        (plan.relationshipsAfter relationships) ∧
      List.Forall₂ (Table.Moved (plan.createdTables.map Table.id)) (plan.tablesAfter tables)
        moved := by
  have hdeleted := h.deleteTables hlive record
  have hupdated := hdeleted.updateTables plan.updatedTables record
  obtain ⟨moved, hcreated, hmoved⟩ := hupdated.createTables plan.createdTables record
  have hunlinked := hcreated.deleteRelationships plan.deletedRelationships record
  have hrelinked := hunlinked.updateRelationships plan.updatedRelationships record
  have hlinked := hrelinked.createRelationships plan.createdRelationships record
  refine ⟨moved, ?_, hmoved⟩
  simp only [Workspace.planOperations, runAll_append]
  exact hlinked

/-- Carrying out a plan leaves what the plan says, with the created tables moved. -/
theorem Shows.applyPlan [Coordinate κ] (h : workspace.Shows tables relationships)
    {plan : Plan κ} (hlive : ∀ id ∈ plan.deletedTables, id ∈ tables.map Table.id)
    (record : Bool) :
    ∃ moved, (workspace.applyPlan plan record).2.Shows moved
        (plan.relationshipsAfter relationships) ∧
      List.Forall₂ (Table.Moved (plan.createdTables.map Table.id)) (plan.tablesAfter tables)
        moved := by
  have hloaded : workspace.session.diagram?.isNone = false := by
    obtain ⟨diagram, hsome, -, -⟩ := h
    rw [hsome]
    rfl
  rw [Workspace.applyPlan, hloaded, if_neg Bool.false_ne_true]
  by_cases hempty : plan.isEmpty = true
  · obtain ⟨htables, hrelationships⟩ :=
      Plan.after_of_isEmpty hempty tables relationships
    rw [if_pos hempty, htables, hrelationships]
    exact ⟨tables, h, forall₂_moved_refl _ tables⟩
  · rw [if_neg hempty]
    cases record with
    | false => exact h.planOperations hlive false
    | true =>
        have hopened : (workspace.mapHistory History.beginGroup).Shows tables relationships := h
        exact hopened.planOperations hlive true

end Workspace

end SchemaDiagram
