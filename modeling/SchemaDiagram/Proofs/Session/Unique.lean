import SchemaDiagram.Proofs.Reconciliation.Lent
import SchemaDiagram.Proofs.Session.Mirrored

/-!
# Identifiers stay unique

Over any storage, a session that starts with a new diagram keeps its diagrams tidy, whether or not
writes fail, as long as what is passed in and what is drawn is new and texts tell the parts of the
tables apart.  A text that declares a field twice under the name of a present one breaks this: both
fields are lent the identifier of the present one.

Undo and redo lead along the timeline, whose diagrams are all tidy.  They can be relied on as long
as all changes have been recorded: an unrecorded change takes the session off its timeline.
-/

namespace SchemaDiagram

open Reconciliation

variable {σ κ : Type}

/-! ## What is new -/

/-- The identifiers of the next stamps differ from each other, and none of them is in use. -/
structure Supply.Fresh (supply : Supply) (count : Nat) (diagram : Diagram κ) : Prop where
  nodup : (supply.next count).Nodup
  spared : ∀ id ∈ supply.next count, diagram.Spares id

theorem Supply.Fresh.first {supply : Supply} {count : Nat} {diagram : Diagram κ}
    (h : supply.Fresh count diagram) (hcount : 0 < count) :
    diagram.Spares (supply.get 0).id :=
  h.spared _ (supply.get_mem_next hcount)

/-- A plan puts in new things only. -/
structure Plan.BringsNew (plan : Plan κ) (diagram : Diagram κ) : Prop where
  nodup : plan.createdIds.Nodup
  spared : ∀ id ∈ plan.createdIds, diagram.Spares id
  updated : ∀ update ∈ plan.updatedTables, update.2.Distinct
  created : ∀ table ∈ plan.createdTables, table.Distinct

/-- An edit of a diagram puts in new things only, and a text tells the parts of the tables apart. -/
def Edit.BringsNew (session : Session κ) (diagram : Diagram κ) : Edit κ → Prop
  | mutate mutation =>
    mutation.Admissible diagram ∧ mutation.BringsNew diagram ∧ mutation.BringsParts diagram
  | createTable attributes => session.supply.Fresh 2 diagram ∧ attributes.Distinct
  | applyText text =>
    session.supply.Fresh (stamps (SchemaText.parse session.dialect text)) diagram ∧
      (SchemaText.parse session.dialect text).TellsApart diagram.tables
  | _ => session.supply.Fresh 1 diagram

theorem Diagram.Spares.sparesParts {diagram : Diagram κ} {ids : List Identifier}
    (h : ∀ id ∈ ids, diagram.Spares id) : ∀ table ∈ diagram.tables, table.SparesParts ids := by
  intro table hmem
  constructor
  · intro id hid hfield
    obtain ⟨field, hfields, rfl⟩ := List.mem_map.mp hfield
    exact List.find?_eq_none.mp ((h _ hid).fields table hmem) field hfields (beq_self_eq_true _)
  · intro id hid hindex
    obtain ⟨index, hindexes, rfl⟩ := List.mem_map.mp hindex
    exact List.find?_eq_none.mp ((h _ hid).indexes table hmem) index hindexes (beq_self_eq_true _)

/-- The plan for a text that tells the parts of the tables apart puts in new things only. -/
theorem Workspace.planFor_bringsNew [Coordinate κ] {session : Session κ} {diagram : Diagram κ}
    (hloaded : session.diagram? = some diagram) (htidy : diagram.Tidy) {text : String}
    (hnew : Edit.BringsNew session diagram (.applyText text)) :
    (planFor session text).1.BringsNew diagram := by
  obtain ⟨⟨hdrawn, hspared⟩, hapart⟩ := hnew
  have hread := SchemaText.asRead_parse session.dialect text
  have hcreated := created_sublist_next hread htidy.tables htidy.relationships session.supply
  have hparts := reconcile_distinct hread htidy.tables htidy.parts diagram.relationships hdrawn
    (Diagram.Spares.sparesParts hspared) hapart
  rw [planFor_of_loaded hloaded]
  exact ⟨hdrawn.sublist hcreated, fun id hid => hspared id (hcreated.subset hid), hparts.1,
    hparts.2⟩

/-- An edit that puts in new things only is sound. -/
theorem Edit.BringsNew.sound [Coordinate κ] {session : Session κ} {edit : Edit κ}
    {diagram : Diagram κ} (hloaded : session.diagram? = some diagram) (htidy : diagram.Tidy)
    (h : edit.BringsNew session diagram) : edit.Sound session := by
  have hone : diagram.Spares (session.supply.get 0).id →
      ∀ other, session.diagram? = some other →
        ∀ id ∈ [(session.supply.get 0).id], other.Spares id := by
    intro hspared other hother id hid
    obtain rfl := List.mem_singleton.mp hid
    obtain rfl := Option.some.inj (hloaded.symm.trans hother)
    exact hspared
  cases edit with
  | mutate mutation =>
      intro other hother
      obtain rfl := Option.some.inj (hloaded.symm.trans hother)
      exact h.1
  | applyText text =>
      intro other hother
      obtain rfl := Option.some.inj (hloaded.symm.trans hother)
      exact (Workspace.planFor_bringsNew hloaded htidy h).spared
  | createTable attributes => exact hone (h.1.first (by decide))
  | createField tableId => exact hone (h.first (by decide))
  | createIndex tableId => exact hone (h.first (by decide))
  | createRelationship source target => exact hone (h.first (by decide))
  | createDependency tableId dependentTableId => exact hone (h.first (by decide))

theorem Diagram.Tidy.relabel {diagram : Diagram κ} (h : diagram.Tidy)
    (dialect : Dialect → Dialect) (time : Timestamp → Timestamp) :
    (diagram.relabel dialect time).Tidy :=
  ⟨⟨h.tables, h.relationships, h.dependencies⟩, h.parts⟩

namespace Workspace

/-! ## Operations on the loaded diagram -/

/-- Whatever it answers, an operation turns loaded diagrams with one property into ones with another
property. -/
def Turns (before after : Diagram κ → Prop) (operation : Workspace σ κ → Answer σ κ Unit) : Prop :=
  ∀ workspace diagram, workspace.session.diagram? = some diagram → before diagram →
    ∃ next, (operation workspace).2.session.diagram? = some next ∧ after next

variable {before after : Diagram κ → Prop}

theorem turns_nil (property : Diagram κ → Prop) :
    Turns (σ := σ) property property fun workspace => workspace.runAll [] :=
  fun _ diagram hloaded hbefore => ⟨diagram, hloaded, hbefore⟩

theorem Turns.append (between : Diagram κ → Prop)
    {first second : List (Workspace σ κ → Answer σ κ Unit)}
    (hfirst : Turns before between fun workspace => workspace.runAll first)
    (hsecond : Turns between after fun workspace => workspace.runAll second) :
    Turns before after fun workspace => workspace.runAll (first ++ second) := by
  intro workspace diagram hloaded hbefore
  obtain ⟨next, hnext, hbetween⟩ := hfirst workspace diagram hloaded hbefore
  simp only [runAll_append]
  exact hsecond _ next hnext hbetween

theorem Turns.single {operation : Workspace σ κ → Answer σ κ Unit}
    (h : Turns before after operation) :
    Turns before after fun workspace => workspace.runAll [operation] := by
  intro workspace diagram hloaded hbefore
  simp only [runAll_singleton]
  exact h workspace diagram hloaded hbefore

theorem turns_runAll {property : Diagram κ → Prop}
    {operations : List (Workspace σ κ → Answer σ κ Unit)}
    (h : ∀ operation ∈ operations, Turns property property operation) :
    Turns property property fun workspace => workspace.runAll operations := by
  induction operations with
  | nil => exact turns_nil property
  | cons operation rest ih =>
      have hrest := ih fun other hother => h other (List.mem_cons_of_mem _ hother)
      exact .append property (h operation List.mem_cons_self).single hrest

theorem turns_unless {condition : Prop} [Decidable condition]
    {operations : List (Workspace σ κ → Answer σ κ Unit)}
    (hkeeps : ∀ diagram, before diagram → after diagram)
    (h : Turns before after fun workspace => workspace.runAll operations) :
    Turns before after
      fun workspace => workspace.runAll (if condition then [] else operations) := by
  by_cases hcondition : condition
  · simp only [if_pos hcondition]
    exact fun _ diagram hloaded hbefore => ⟨diagram, hloaded, hkeeps diagram hbefore⟩
  · simp only [if_neg hcondition]
    exact h

variable [Storage σ κ]

/-- Whatever the storage answers, the diagram is the changed one, or the same one after a
refusal. -/
theorem exists_after_perform {workspace : Workspace σ κ} {diagram : Diagram κ}
    {mutation : Mutation κ} (hloaded : workspace.session.diagram? = some diagram)
    (hkeeps : after diagram)
    (hchange : ∀ change, mutation.change diagram = .ok change →
      ∀ time, after (change.diagram.touched time)) (record : Bool) :
    ∃ next, (workspace.perform mutation record).2.session.diagram? = some next ∧ after next := by
  cases h : mutation.change diagram with
  | error error =>
      rw [perform_of_refusal record hloaded h]
      exact ⟨diagram, hloaded, hkeeps⟩
  | ok change =>
      refine ⟨change.diagram.touched (workspace.session.supply.get 0).time, ?_, hchange change h _⟩
      rw [perform_session record hloaded h]
      cases record <;> rfl

theorem exists_after_performFor {α : Type} {workspace : Workspace σ κ} {diagram : Diagram κ}
    {mutation : Mutation κ} (hloaded : workspace.session.diagram? = some diagram)
    (hkeeps : after diagram)
    (hchange : ∀ change, mutation.change diagram = .ok change →
      ∀ time, after (change.diagram.touched time)) (count : Nat) (entity : α) :
    ∃ next, (workspace.performFor count mutation entity).2.session.diagram? = some next ∧
      after next := by
  have hdrawn : (workspace.withSession (workspace.session.draw count)).session.diagram? =
      some diagram := hloaded
  exact exists_after_perform hdrawn hkeeps hchange true

theorem turns_perform {mutation : Mutation κ} (record : Bool)
    (hkeeps : ∀ diagram, before diagram → after diagram)
    (hchange : ∀ diagram change, before diagram → mutation.change diagram = .ok change →
      ∀ time, after (change.diagram.touched time)) :
    Turns (σ := σ) before after fun workspace => workspace.perform mutation record :=
  fun _ diagram hloaded hbefore => exists_after_perform hloaded (hkeeps diagram hbefore)
    (fun change => hchange diagram change hbefore) record

/-- A mutation that puts in new things only turns tidy diagrams into tidy ones. -/
theorem turns_tidy {mutation : Mutation κ} (record : Bool)
    (hnew : ∀ diagram, diagram.Tidy → before diagram →
      mutation.BringsNew diagram ∧ mutation.BringsParts diagram)
    (hkeeps : ∀ diagram, before diagram → after diagram)
    (hchange : ∀ diagram change, before diagram → mutation.change diagram = .ok change →
      ∀ time, after (change.diagram.touched time)) :
    Turns (σ := σ) (fun diagram => diagram.Tidy ∧ before diagram)
      (fun diagram => diagram.Tidy ∧ after diagram)
      fun workspace => workspace.perform mutation record := by
  apply turns_perform
  · exact fun diagram hbefore => ⟨hbefore.1, hkeeps diagram hbefore.2⟩
  · intro diagram change hbefore hok time
    obtain ⟨hbrings, hparts⟩ := hnew diagram hbefore.1 hbefore.2
    exact ⟨Diagram.tidy_touched.mpr (Mutation.change_tidy hok hbefore.1 hbrings hparts),
      hchange diagram change hbefore.2 hok time⟩

theorem turns_updateTable {property : Diagram κ → Prop}
    (h : ∀ diagram id patch time, property diagram → property (Diagram.touched { diagram with
      tables := updateFirst (fun table => table.id == id) (fun table => table.apply patch)
        diagram.tables } time)) (id : Identifier) {patch : TablePatch κ}
    (hpatch : patch.Distinct) (record : Bool) :
    Turns (σ := σ) (fun diagram => diagram.Tidy ∧ property diagram)
      (fun diagram => diagram.Tidy ∧ property diagram)
      fun workspace => workspace.perform (.updateTable id patch) record := by
  apply turns_tidy
  · exact fun _ _ _ => ⟨trivial, hpatch⟩
  · exact fun _ hbefore => hbefore
  · intro diagram change hbefore hchange time
    rw [updateTableChange_diagram hchange]
    exact h diagram id patch time hbefore

theorem turns_placeTables [Coordinate κ] {property : Diagram κ → Prop}
    (h : ∀ diagram id patch time, property diagram → property (Diagram.touched { diagram with
      tables := updateFirst (fun table => table.id == id) (fun table => table.apply patch)
        diagram.tables } time)) (ids : List Identifier) (record : Bool) :
    Turns (σ := σ) (fun diagram => diagram.Tidy ∧ property diagram)
      (fun diagram => diagram.Tidy ∧ property diagram) (placeTables ids record) := by
  intro workspace
  refine turns_runAll ?_ workspace
  intro operation hoperation
  obtain ⟨position, -, rfl⟩ := List.mem_map.mp hoperation
  have hmoved : TablePatch.Distinct
      ({ position := some (position.x, position.y) } : TablePatch κ) :=
    ⟨fun _ h => (by cases h), fun _ h => (by cases h)⟩
  exact turns_updateTable h position.tableId hmoved record

/-! ## Plans -/

section Plans

variable {plan : Plan κ} {start : Diagram κ}

/-- Tidy diagrams in which nothing that the plan creates is in use. -/
def Awaits (plan : Plan κ) (diagram : Diagram κ) : Prop :=
  diagram.Tidy ∧ diagram.SparesAll fun id => id ∈ plan.createdIds

/-- Tidy diagrams in which no relationship that the plan creates is in use. -/
def AwaitsLinks (plan : Plan κ) (diagram : Diagram κ) : Prop :=
  diagram.Tidy ∧ diagram.SparesLinks fun id => id ∈ plan.createdIds

theorem turns_removeTables (ids : List Identifier) (record : Bool) :
    Turns (σ := σ) (Awaits plan) (Awaits plan)
      fun workspace => workspace.perform (.removeTables ids) record := by
  apply turns_tidy
  · exact fun _ _ _ => ⟨trivial, trivial⟩
  · exact fun _ hbefore => hbefore
  · intro diagram change hbefore hchange time
    rw [(Mutation.removeTablesChange_eq_ok hchange).1]
    exact hbefore.removeTables ids

theorem turns_addTables (hplan : plan.BringsNew start) (record : Bool) :
    Turns (σ := σ) (Awaits plan) (AwaitsLinks plan)
      fun workspace => workspace.perform (.addTables plan.createdTables) record := by
  obtain ⟨htables, -, -⟩ := List.nodup_append.mp hplan.nodup
  apply turns_tidy
  · intro diagram htidy hbefore
    refine ⟨?_, hplan.created⟩
    rw [Mutation.BringsNew, List.map_append, List.nodup_append]
    refine ⟨htidy.tables, htables, ?_⟩
    rintro id hlive other hother rfl
    exact Diagram.table?_eq_none_iff.mp (hbefore id (List.mem_append_left _ hother)).1 hlive
  · exact fun _ hbefore => hbefore.relationships
  · intro diagram change hbefore hchange time
    obtain rfl := Except.ok.inj hchange
    exact hbefore.relationships

theorem turns_removeRelationships (ids : List Identifier) (record : Bool) :
    Turns (σ := σ) (AwaitsLinks (κ := κ) plan) (AwaitsLinks plan)
      fun workspace => workspace.perform (.removeRelationships ids) record := by
  apply turns_tidy
  · exact fun _ _ _ => ⟨trivial, trivial⟩
  · exact fun _ hbefore => hbefore
  · intro diagram change hbefore hchange time
    rw [(Mutation.removeRelationshipsChange_eq_ok hchange).1]
    exact hbefore.removeRelationships ids

theorem turns_updateRelationship (id : Identifier) (patch : RelationshipPatch)
    (record : Bool) :
    Turns (σ := σ) (AwaitsLinks (κ := κ) plan) (AwaitsLinks plan)
      fun workspace => workspace.perform (.updateRelationship id patch) record := by
  apply turns_tidy
  · exact fun _ _ _ => ⟨trivial, trivial⟩
  · exact fun _ hbefore => hbefore
  · intro diagram change hbefore hchange time
    rw [updateRelationshipChange_diagram hchange]
    exact hbefore.updateRelationship id patch

theorem turns_addRelationships (hplan : plan.BringsNew start) (record : Bool) :
    Turns (σ := σ) (AwaitsLinks (κ := κ) plan) (fun diagram => diagram.Tidy ∧ True)
      fun workspace =>
        workspace.perform (.addRelationships plan.createdRelationships) record := by
  obtain ⟨-, hrelationships, -⟩ := List.nodup_append.mp hplan.nodup
  apply turns_tidy
  · intro diagram htidy hbefore
    refine ⟨?_, trivial⟩
    rw [Mutation.BringsNew, List.map_append, List.nodup_append]
    refine ⟨htidy.relationships, hrelationships, ?_⟩
    rintro id hlive other hother rfl
    exact Diagram.relationship?_eq_none_iff.mp (hbefore id (List.mem_append_right _ hother)) hlive
  · exact fun _ _ => trivial
  · exact fun _ _ _ _ _ => trivial

/-- A plan that puts in new things only turns tidy diagrams into tidy ones. -/
theorem turns_planOperations [Coordinate κ] (hplan : plan.BringsNew start) (record : Bool) :
    Turns (Awaits plan) (fun diagram => diagram.Tidy ∧ True)
      fun workspace : Workspace σ κ => workspace.runAll (planOperations plan record) := by
  have hplaced : Turns (σ := σ) (AwaitsLinks plan) (AwaitsLinks plan)
      (placeTables (plan.createdTables.map Table.id) record) :=
    turns_placeTables (fun _ _ _ _ hbefore => hbefore) _ record
  unfold planOperations
  refine .append (AwaitsLinks plan) (.append (AwaitsLinks plan) (.append (AwaitsLinks plan)
    (.append (Awaits plan) (.append (Awaits plan) ?_ ?_) ?_) ?_) ?_) ?_
  · exact turns_unless (fun _ hbefore => hbefore) (turns_removeTables _ record).single
  · apply turns_runAll
    intro operation hoperation
    obtain ⟨update, hupdate, rfl⟩ := List.mem_map.mp hoperation
    exact turns_updateTable (fun _ id patch _ hbefore => hbefore.updateTable id patch) update.1
      (hplan.updated update hupdate) record
  · exact turns_unless (fun _ hbefore => ⟨hbefore.1, hbefore.2.relationships⟩)
      ((turns_addTables hplan record).single.append _ hplaced.single)
  · exact turns_unless (fun _ hbefore => hbefore) (turns_removeRelationships _ record).single
  · apply turns_runAll
    intro operation hoperation
    obtain ⟨update, -, rfl⟩ := List.mem_map.mp hoperation
    exact turns_updateRelationship update.1 update.2 record
  · exact turns_unless (fun _ hbefore => ⟨hbefore.1, trivial⟩)
      (turns_addRelationships hplan record).single

/-- Carrying out a plan that puts in new things only leaves a tidy diagram. -/
theorem applyPlan_tidy [Coordinate κ] {workspace : Workspace σ κ} {diagram : Diagram κ}
    (hloaded : workspace.session.diagram? = some diagram) (htidy : diagram.Tidy)
    (hplan : plan.BringsNew diagram) (record : Bool) :
    ∃ after, (workspace.applyPlan plan record).2.session.diagram? = some after ∧
      after.Tidy := by
  have hawaits : Awaits plan diagram := ⟨htidy, fun id hid =>
    ⟨(hplan.spared id hid).table, (hplan.spared id hid).unlinked,
      (hplan.spared id hid).relationship⟩⟩
  rw [Workspace.applyPlan, hloaded, Option.isNone_some, if_neg Bool.false_ne_true]
  by_cases hempty : plan.isEmpty = true
  · rw [if_pos hempty]
    exact ⟨diagram, hloaded, htidy⟩
  · rw [if_neg hempty]
    cases record with
    | false =>
        obtain ⟨after, hafter, hdone, -⟩ :=
          turns_planOperations hplan false workspace diagram hloaded hawaits
        exact ⟨after, hafter, hdone⟩
    | true =>
        obtain ⟨after, hafter, hdone, -⟩ := turns_planOperations hplan true
          (workspace.mapHistory History.beginGroup) diagram hloaded hawaits
        exact ⟨after, hafter, hdone⟩

end Plans

/-! ## Edits -/

section

variable {workspace : Workspace σ κ} {diagram : Diagram κ} {mutation : Mutation κ}

theorem perform_tidy (hloaded : workspace.session.diagram? = some diagram) (htidy : diagram.Tidy)
    (hnew : mutation.BringsNew diagram) (hparts : mutation.BringsParts diagram) (record : Bool) :
    ∃ after, (workspace.perform mutation record).2.session.diagram? = some after ∧
      after.Tidy :=
  exists_after_perform hloaded htidy (fun _ hchange _ =>
    Diagram.tidy_touched.mpr (Mutation.change_tidy hchange htidy hnew hparts)) record

theorem performFor_tidy {α : Type} (hloaded : workspace.session.diagram? = some diagram)
    (htidy : diagram.Tidy) (hnew : mutation.BringsNew diagram)
    (hparts : mutation.BringsParts diagram) (count : Nat) (entity : α) :
    ∃ after, (workspace.performFor count mutation entity).2.session.diagram? = some after ∧
      after.Tidy :=
  exists_after_performFor hloaded htidy (fun _ hchange _ =>
    Diagram.tidy_touched.mpr (Mutation.change_tidy hchange htidy hnew hparts)) count entity

end

section Creating

variable {workspace : Workspace σ κ} {diagram : Diagram κ}

theorem createTable_tidy [Coordinate κ] (hloaded : workspace.session.diagram? = some diagram)
    (htidy : diagram.Tidy) (hfresh : workspace.session.supply.Fresh 2 diagram)
    {attributes : TablePatch κ} (hattributes : attributes.Distinct) :
    ∃ after, (workspace.createTable attributes).2.session.diagram? = some after ∧
      after.Tidy := by
  apply performFor_tidy hloaded htidy
  · exact Diagram.nodup_map_concat htidy.tables
      (Diagram.table?_eq_none_iff.mp (hfresh.first (by decide)).table)
  · intro table hmem
    obtain rfl := List.mem_singleton.mp hmem
    apply Table.Distinct.apply _ hattributes
    exact ⟨List.nodup_singleton _, List.nodup_nil⟩

theorem createField_tidy (hloaded : workspace.session.diagram? = some diagram)
    (htidy : diagram.Tidy) (hfresh : workspace.session.supply.Fresh 1 diagram)
    (tableId : Identifier) :
    ∃ after, (workspace.createField tableId).2.session.diagram? = some after ∧ after.Tidy := by
  unfold createField
  dsimp only
  split
  · exact ⟨diagram, hloaded, htidy⟩
  · apply performFor_tidy hloaded htidy
    · exact trivial
    · intro table htable
      exact (hfresh.first (by decide)).fields table (List.mem_of_find?_eq_some htable)

theorem createIndex_tidy (hloaded : workspace.session.diagram? = some diagram)
    (htidy : diagram.Tidy) (hfresh : workspace.session.supply.Fresh 1 diagram)
    (tableId : Identifier) :
    ∃ after, (workspace.createIndex tableId).2.session.diagram? = some after ∧ after.Tidy := by
  unfold createIndex
  dsimp only
  split
  · exact ⟨diagram, hloaded, htidy⟩
  · apply performFor_tidy hloaded htidy
    · exact trivial
    · intro table htable
      exact (hfresh.first (by decide)).indexes table (List.mem_of_find?_eq_some htable)

theorem createRelationship_tidy (hloaded : workspace.session.diagram? = some diagram)
    (htidy : diagram.Tidy) (hfresh : workspace.session.supply.Fresh 1 diagram)
    (source target : Identifier × Identifier) :
    ∃ after, (workspace.createRelationship source target).2.session.diagram? = some after ∧
      after.Tidy := by
  unfold createRelationship
  dsimp only
  split
  · exact ⟨diagram, hloaded, htidy⟩
  · apply performFor_tidy hloaded htidy
    · exact Diagram.nodup_map_concat htidy.relationships
        (Diagram.relationship?_eq_none_iff.mp (hfresh.first (by decide)).relationship)
    · exact trivial

theorem createDependency_tidy (hloaded : workspace.session.diagram? = some diagram)
    (htidy : diagram.Tidy) (hfresh : workspace.session.supply.Fresh 1 diagram)
    (tableId dependentTableId : Identifier) :
    ∃ after, (workspace.createDependency tableId dependentTableId).2.session.diagram? =
      some after ∧ after.Tidy := by
  unfold createDependency
  dsimp only
  split
  · exact ⟨diagram, hloaded, htidy⟩
  · apply performFor_tidy hloaded htidy
    · exact Diagram.nodup_map_concat htidy.dependencies
        (Diagram.dependency?_eq_none_iff.mp (hfresh.first (by decide)).dependency)
    · exact trivial

/-- An edit that puts in new things only leaves a tidy diagram. -/
theorem edit_tidy [Coordinate κ] (hloaded : workspace.session.diagram? = some diagram)
    (htidy : diagram.Tidy) {edit : Edit κ} (hnew : edit.BringsNew workspace.session diagram) :
    ∃ after, (edit.run workspace).session.diagram? = some after ∧ after.Tidy := by
  cases edit with
  | mutate mutation => exact perform_tidy hloaded htidy hnew.2.1 hnew.2.2 true
  | createTable attributes => exact createTable_tidy hloaded htidy hnew.1 hnew.2
  | createField tableId => exact createField_tidy hloaded htidy hnew tableId
  | createIndex tableId => exact createIndex_tidy hloaded htidy hnew tableId
  | createRelationship source target =>
      exact createRelationship_tidy hloaded htidy hnew source target
  | createDependency tableId dependentTableId =>
      exact createDependency_tidy hloaded htidy hnew tableId dependentTableId
  | applyText text =>
      rw [Edit.run, applyText_of_loaded hloaded]
      have hdrawn : (workspace.withSession (planFor workspace.session text).2).session.diagram? =
          some diagram := hloaded
      exact applyPlan_tidy hdrawn htidy (planFor_bringsNew hloaded htidy hnew) true

end Creating

/-! ## Runs -/

/-- The workspaces that a session comes to, and whether all changes since its diagram was created or
loaded have been recorded.  Writes may fail, but in undoing. -/
inductive Visited [Coordinate κ] : Bool → Workspace σ κ → Prop
  | created (start : Workspace σ κ) {diagram : Diagram κ} (name : String)
      (dialect : Option Dialect)
      (hcreated : (start.createDiagram name dialect).1 = .ok diagram) :
      Visited true (start.createDiagram name dialect).2
  | loaded (start : Workspace σ κ) {diagram : Diagram κ} (id : Identifier)
      (hloaded : (start.loadDiagram id).1 = .ok diagram) (htidy : diagram.Tidy) :
      Visited true (start.loadDiagram id).2
  | edited {recorded : Bool} {workspace : Workspace σ κ} (hvisited : Visited recorded workspace)
      (edit : Edit κ)
      (hnew : ∀ diagram, workspace.session.diagram? = some diagram →
        edit.BringsNew workspace.session diagram) :
      Visited recorded (edit.run workspace)
  | planned {recorded : Bool} {workspace : Workspace σ κ} (hvisited : Visited recorded workspace)
      (plan : Plan κ) (record : Bool)
      (hnew : ∀ diagram, workspace.session.diagram? = some diagram → plan.BringsNew diagram) :
      Visited (recorded && record) (workspace.applyPlan plan record).2
  | changed {recorded : Bool} {workspace : Workspace σ κ} (hvisited : Visited recorded workspace)
      (mutation : Mutation κ)
      (hnew : ∀ diagram, workspace.session.diagram? = some diagram →
        mutation.BringsNew diagram ∧ mutation.BringsParts diagram) :
      Visited false (workspace.perform mutation false).2
  | redialected {recorded : Bool} {workspace : Workspace σ κ}
      (hvisited : Visited recorded workspace) (dialect : Dialect) :
      Visited recorded (workspace.setDialect dialect).2
  | cleared {recorded : Bool} {workspace : Workspace σ κ}
      (hvisited : Visited recorded workspace) : Visited true workspace.clearDiagram.2
  | undone {workspace : Workspace σ κ} (hvisited : Visited true workspace)
      (hserved : Served workspace.undo.1) : Visited true workspace.undo.2
  | redone {workspace : Workspace σ κ} (hvisited : Visited true workspace) :
      Visited true workspace.redo.2

/-- What a session keeps up: its diagram is tidy, and if all changes have been recorded, it stands
on a timeline of tidy diagrams. -/
structure KeepsTidy (recorded : Bool) (workspace : Workspace σ κ) : Prop where
  present : ∃ diagram, workspace.session.diagram? = some diagram ∧ diagram.Tidy
  timeline : recorded = true → ∃ timeline, workspace.OnTimeline timeline ∧
    ∀ state ∈ timeline.states, state.Tidy

variable {recorded : Bool} {workspace : Workspace σ κ}

omit [Storage σ κ] in
/-- On a timeline of tidy diagrams the present one is tidy. -/
theorem KeepsTidy.of_along (h : Along Diagram.Tidy workspace) : workspace.KeepsTidy true :=
  ⟨h.present, fun _ => h⟩

omit [Storage σ κ] in
theorem KeepsTidy.of_load {diagram : Diagram κ}
    (hloaded : workspace.session.diagram? = some diagram) (htidy : diagram.Tidy)
    (hhistory : workspace.session.history = History.empty) : workspace.KeepsTidy true :=
  .of_along (.of_load hloaded hhistory htidy)

omit [Storage σ κ] in
/-- A change that is recorded as one command, or does nothing, and leaves a tidy diagram. -/
theorem KeepsTidy.records (h : workspace.KeepsTidy recorded) {next : Workspace σ κ}
    {after : Diagram κ} (hafter : next.session.diagram? = some after) (htidy : after.Tidy)
    (hrecords : workspace.session.history.group = none → workspace.Records next) :
    next.KeepsTidy recorded := by
  refine ⟨⟨after, hafter, htidy⟩, fun hrecorded => ?_⟩
  have halong : Along Diagram.Tidy workspace := h.timeline hrecorded
  refine halong.records (hrecords halong.idle) fun other hother => ?_
  obtain rfl := Option.some.inj (hafter.symm.trans hother)
  exact htidy

theorem keepsTidy_createDiagram (start : Workspace σ κ) {diagram : Diagram κ} (name : String)
    (dialect : Option Dialect) (hcreated : (start.createDiagram name dialect).1 = .ok diagram) :
    (start.createDiagram name dialect).2.KeepsTidy true := by
  unfold createDiagram at hcreated ⊢
  dsimp only at hcreated ⊢
  split at hcreated
  · cases hcreated
  · exact .of_load rfl (.of_empty rfl rfl rfl) rfl

theorem keepsTidy_loadDiagram (start : Workspace σ κ) {diagram : Diagram κ} (id : Identifier)
    (hloaded : (start.loadDiagram id).1 = .ok diagram) (htidy : diagram.Tidy) :
    (start.loadDiagram id).2.KeepsTidy true := by
  unfold loadDiagram at hloaded ⊢
  split at hloaded
  · cases hloaded
  · obtain rfl := Except.ok.inj hloaded
    exact .of_load rfl htidy rfl

theorem KeepsTidy.edit [Coordinate κ] (h : workspace.KeepsTidy recorded) (edit : Edit κ)
    (hnew : ∀ diagram, workspace.session.diagram? = some diagram →
      edit.BringsNew workspace.session diagram) : (edit.run workspace).KeepsTidy recorded := by
  obtain ⟨diagram, hloaded, htidy⟩ := h.present
  obtain ⟨after, hafter, hdone⟩ := edit_tidy hloaded htidy (hnew diagram hloaded)
  exact h.records hafter hdone fun hidle =>
    sound_records hidle ((hnew diagram hloaded).sound hloaded htidy)

theorem KeepsTidy.applyPlan [Coordinate κ] (h : workspace.KeepsTidy recorded) (plan : Plan κ)
    (record : Bool)
    (hnew : ∀ diagram, workspace.session.diagram? = some diagram → plan.BringsNew diagram) :
    (workspace.applyPlan plan record).2.KeepsTidy (recorded && record) := by
  obtain ⟨diagram, hloaded, htidy⟩ := h.present
  obtain ⟨after, hafter, hdone⟩ := applyPlan_tidy hloaded htidy (hnew diagram hloaded) record
  cases record with
  | true =>
      rw [Bool.and_true]
      exact h.records hafter hdone fun hidle =>
        applyPlan_recorded workspace hloaded hidle (hnew diagram hloaded).spared
  | false =>
      rw [Bool.and_false]
      exact ⟨⟨after, hafter, hdone⟩, fun hrecorded => absurd hrecorded Bool.false_ne_true⟩

theorem KeepsTidy.perform (h : workspace.KeepsTidy recorded) (mutation : Mutation κ)
    (hnew : ∀ diagram, workspace.session.diagram? = some diagram →
      mutation.BringsNew diagram ∧ mutation.BringsParts diagram) :
    (workspace.perform mutation false).2.KeepsTidy false := by
  obtain ⟨diagram, hloaded, htidy⟩ := h.present
  obtain ⟨hbrings, hparts⟩ := hnew diagram hloaded
  exact ⟨perform_tidy hloaded htidy hbrings hparts false,
    fun hrecorded => absurd hrecorded Bool.false_ne_true⟩

theorem KeepsTidy.setDialect (h : workspace.KeepsTidy recorded) (dialect : Dialect) :
    (workspace.setDialect dialect).2.KeepsTidy recorded := by
  obtain ⟨diagram, hloaded, htidy⟩ := h.present
  refine ⟨⟨_, (setDialect_session hloaded dialect).1, htidy.relabel _ _⟩, fun hrecorded => ?_⟩
  obtain ⟨timeline, htimeline, hstates⟩ := h.timeline hrecorded
  refine ⟨_, htimeline.setDialect hloaded dialect, ?_⟩
  intro state hstate
  obtain ⟨before, hbefore, rfl⟩ := List.mem_map.mp hstate
  exact (hstates before hbefore).relabel _ _

theorem KeepsTidy.clearDiagram (h : workspace.KeepsTidy recorded) :
    workspace.clearDiagram.2.KeepsTidy true := by
  obtain ⟨diagram, hloaded, -⟩ := h.present
  simp only [Workspace.clearDiagram, hloaded]
  exact .of_load rfl (.of_empty rfl rfl rfl) rfl

theorem KeepsTidy.undo (h : workspace.KeepsTidy true) (hserved : Served workspace.undo.1) :
    workspace.undo.2.KeepsTidy true := by
  have halong : Along Diagram.Tidy workspace := h.timeline rfl
  exact .of_along (halong.undo hserved)

theorem KeepsTidy.redo (h : workspace.KeepsTidy true) : workspace.redo.2.KeepsTidy true := by
  have halong : Along Diagram.Tidy workspace := h.timeline rfl
  exact .of_along halong.redo

theorem Visited.keepsTidy [Coordinate κ] (h : Visited recorded workspace) :
    workspace.KeepsTidy recorded := by
  induction h with
  | created start name dialect hcreated => exact start.keepsTidy_createDiagram name dialect hcreated
  | loaded start id hloaded htidy => exact start.keepsTidy_loadDiagram id hloaded htidy
  | edited _ edit hnew ih => exact ih.edit edit hnew
  | planned _ plan record hnew ih => exact ih.applyPlan plan record hnew
  | changed _ mutation hnew ih => exact ih.perform mutation hnew
  | redialected _ dialect ih => exact ih.setDialect dialect
  | cleared _ ih => exact ih.clearDiagram
  | undone _ hserved ih => exact ih.undo hserved
  | redone _ ih => exact ih.redo

/-- In every workspace that a session comes to, no two things of a kind share an identifier. -/
theorem Visited.tidy [Coordinate κ] (h : Visited recorded workspace) {diagram : Diagram κ}
    (hloaded : workspace.session.diagram? = some diagram) : diagram.Tidy := by
  obtain ⟨present, hpresent, htidy⟩ := h.keepsTidy.present
  obtain rfl := Option.some.inj (hpresent.symm.trans hloaded)
  exact htidy

/-! ## A field that is declared twice -/

/-- A table with two fields of one name. -/
def doubledText : String := "Table a \x7b\n\tid int\n\tid int\n\x7d"

/-- The text is applied to a new diagram, and it is undone. -/
theorem doubledText_tidy :
    let written := Edit.run (unopened.createDiagram "shop" none).2 (.applyText doubledText)
    ∃ diagram, written.undo.2.session.diagram? = some diagram ∧ diagram.Tidy := by
  intro written
  have hnew : ∀ diagram, (unopened.createDiagram "shop" none).2.session.diagram? = some diagram →
      Edit.BringsNew (unopened.createDiagram "shop" none).2.session diagram
        (.applyText doubledText) := by
    intro diagram hloaded
    obtain rfl := Option.some.inj hloaded
    refine ⟨⟨by decide +kernel, fun id _ => ?_⟩, fun declaration _ table htable => ?_⟩
    · exact .of_empty rfl rfl rfl id
    · exact absurd (existingTable?_mem htable) List.not_mem_nil
  have hserved : Served written.undo.1 := by
    have hok : written.undo.1.isOk = true := by decide +kernel
    intro error herror
    rw [herror] at hok
    cases hok
  have hsome : written.undo.2.session.diagram?.isSome = true := by decide +kernel
  obtain ⟨diagram, hdiagram⟩ := Option.isSome_iff_exists.mp hsome
  exact ⟨diagram, hdiagram, Visited.tidy (.undone (.edited (.created unopened "shop" none rfl)
    (.applyText doubledText) hnew) hserved) hdiagram⟩

/-- Applied once more, the text lends both fields the identifier of the first one. -/
theorem doubledText_clashes :
    let written := Edit.run (unopened.createDiagram "shop" none).2 (.applyText doubledText)
    ∃ diagram, (Edit.run written (.applyText doubledText)).session.diagram? = some diagram ∧
      ¬ diagram.Tidy := by
  intro written
  have hfields : ((Edit.run written (.applyText doubledText)).session.diagram?.map
      fun diagram => diagram.tables.map fun table => table.fields.map Field.id) =
      some [[Identifier.ofNat 3, Identifier.ofNat 3]] := by decide +kernel
  obtain ⟨diagram, hdiagram, htables⟩ := Option.map_eq_some_iff.mp hfields
  obtain ⟨table, htable, hids⟩ := List.map_eq_singleton_iff.mp htables
  refine ⟨diagram, hdiagram, fun htidy => ?_⟩
  have hdistinct := (htidy.parts table (by rw [htable]; exact List.mem_singleton_self table)).fields
  rw [hids] at hdistinct
  exact absurd hdistinct (by decide)

end Workspace

end SchemaDiagram
