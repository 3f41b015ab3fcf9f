import SchemaDiagram.Proofs.Reconciliation.Valid
import SchemaDiagram.Proofs.Session.Converged
import SchemaDiagram.Proofs.Session.InStep

/-!
# Plans in step

A plan that fits the loaded diagram is carried out in step with the storage: none of its operations
is refused, and no write fails.  What the operations still to come need is that the entities they
are for are there, and that the identifiers of those they create are not.
-/

namespace SchemaDiagram

open Reconciliation

variable {κ : Type}

/-! ## Steps that were recorded -/

/-- Every step that a history has recorded brings distinct identifiers. -/
structure History.BringsDistinct (history : History (Step κ)) : Prop where
  commands : ∀ command ∈ history.commands, ∀ step ∈ command.action.steps, step.BringsDistinct
  group : ∀ group, history.group = some group →
    ∀ step ∈ Action.stepsOfAll group.actions, step.BringsDistinct

theorem History.bringsDistinct_empty : (History.empty : History (Step κ)).BringsDistinct :=
  ⟨fun _ hmem => absurd hmem List.not_mem_nil, fun _ hgroup => by cases hgroup⟩

theorem History.BringsDistinct.push {history : History (Step κ)} {command : Command (Step κ)}
    (h : history.BringsDistinct) (hcommand : ∀ step ∈ command.action.steps, step.BringsDistinct)
    (hgroup : history.group = none) : (history.push command).BringsDistinct := by
  refine ⟨?_, fun group hsome => ?_⟩
  · intro other hother
    simp only [History.commands, History.push, List.reverse_nil, List.append_nil, List.mem_append,
      List.mem_singleton] at hother
    rcases hother with hold | rfl
    · exact h.commands other (List.mem_append_left _ hold)
    · exact hcommand
  · rw [History.push, hgroup] at hsome
    cases hsome

theorem History.BringsDistinct.record {history : History (Step κ)} (h : history.BringsDistinct)
    {step : Step κ} (hstep : step.BringsDistinct) (before after : Timestamp) :
    (history.record (.step step) before after).BringsDistinct := by
  cases hgroup : history.group with
  | none =>
      simp only [History.record, hgroup]
      refine h.push ?_ hgroup
      simpa [Action.steps] using hstep
  | some group =>
      simp only [History.record, hgroup]
      refine ⟨h.commands, ?_⟩
      intro other hother
      obtain rfl := Option.some.inj hother
      intro earlier hearlier
      simp only [Group.add, Action.stepsOfAll_append, Action.stepsOfAll, Action.steps,
        List.append_nil, List.mem_append, List.mem_singleton] at hearlier
      rcases hearlier with hold | rfl
      · exact h.group group hgroup earlier hold
      · exact hstep

theorem History.BringsDistinct.beginGroup {history : History (Step κ)}
    (h : history.BringsDistinct) : history.beginGroup.BringsDistinct := by
  cases hgroup : history.group with
  | some group =>
      simp only [History.beginGroup, hgroup]
      exact h
  | none =>
      simp only [History.beginGroup, hgroup]
      refine ⟨h.commands, ?_⟩
      intro other hother
      obtain rfl := Option.some.inj hother
      exact fun _ hmem => absurd hmem List.not_mem_nil

theorem History.BringsDistinct.endGroup {history : History (Step κ)}
    (h : history.BringsDistinct) : history.endGroup.BringsDistinct := by
  cases hgroup : history.group with
  | none =>
      simp only [History.endGroup, hgroup]
      exact h
  | some group =>
      have hclosed : ({ history with group := none } : History (Step κ)).BringsDistinct :=
        ⟨h.commands, fun _ hnone => by cases hnone⟩
      cases hbounds : group.bounds with
      | none =>
          simp only [History.endGroup, hgroup, Group.command?, hbounds, Option.map_none]
          exact hclosed
      | some bounds =>
          obtain ⟨action, hcommand, hsteps⟩ := Group.command?_eq_some hbounds
          simp only [History.endGroup, hgroup, hcommand]
          refine hclosed.push ?_ rfl
          rw [hsteps]
          exact h.group group hgroup

namespace Workspace

/-! ## Operations in step -/

/-- An operation is carried out in step with the storage and does not fail, from diagrams with one
property to diagrams with another one; all that it records brings distinct identifiers. -/
def Carries (before after : Diagram κ → Prop)
    (operation : Workspace (MemoryStorage κ) κ → Answer (MemoryStorage κ) κ Unit) : Prop :=
  ∀ workspace diagram, workspace.InStep diagram → diagram.Distinct → before diagram →
    (operation workspace).1 = .ok () ∧
      (workspace.session.history.BringsDistinct →
        (operation workspace).2.session.history.BringsDistinct) ∧
      ∃ next, (operation workspace).2.InStep next ∧ next.Distinct ∧ after next

variable {before between after : Diagram κ → Prop}

theorem carries_nil (property : Diagram κ → Prop) :
    Carries property property fun workspace => workspace.runAll [] :=
  fun _ diagram hstep hdistinct hbefore => ⟨rfl, id, diagram, hstep, hdistinct, hbefore⟩

theorem Carries.append (between : Diagram κ → Prop)
    {first second :
      List (Workspace (MemoryStorage κ) κ → Answer (MemoryStorage κ) κ Unit)}
    (hfirst : Carries before between fun workspace => workspace.runAll first)
    (hsecond : Carries between after fun workspace => workspace.runAll second) :
    Carries before after fun workspace => workspace.runAll (first ++ second) := by
  intro workspace diagram hstep hdistinct hbefore
  obtain ⟨hok, hhistory, next, hnext, hnextDistinct, hbetween⟩ :=
    hfirst workspace diagram hstep hdistinct hbefore
  obtain ⟨hok', hhistory', last, hlast, hlastDistinct, hafter⟩ :=
    hsecond _ next hnext hnextDistinct hbetween
  dsimp only at hok hok' ⊢
  rw [runAll_append, hok, hok']
  exact ⟨rfl, fun h => hhistory' (hhistory h), last, hlast, hlastDistinct, hafter⟩

theorem Carries.single
    {operation : Workspace (MemoryStorage κ) κ → Answer (MemoryStorage κ) κ Unit}
    (h : Carries before after operation) :
    Carries before after fun workspace => workspace.runAll [operation] := by
  intro workspace diagram hstep hdistinct hbefore
  simp only [runAll_singleton]
  exact h workspace diagram hstep hdistinct hbefore

theorem carries_runAll {property : Diagram κ → Prop}
    {operations : List (Workspace (MemoryStorage κ) κ → Answer (MemoryStorage κ) κ Unit)}
    (h : ∀ operation ∈ operations, Carries property property operation) :
    Carries property property fun workspace => workspace.runAll operations := by
  induction operations with
  | nil => exact carries_nil property
  | cons operation rest ih =>
      have hrest := ih fun other hother => h other (List.mem_cons_of_mem _ hother)
      exact .append property (h operation List.mem_cons_self).single hrest

/-- An operation that is left out on a condition. -/
theorem carries_unless {condition : Prop} [Decidable condition]
    {operations : List (Workspace (MemoryStorage κ) κ → Answer (MemoryStorage κ) κ Unit)}
    (hkeeps : condition → ∀ diagram, before diagram → after diagram)
    (h : ¬condition → Carries before after fun workspace => workspace.runAll operations) :
    Carries before after
      fun workspace => workspace.runAll (if condition then [] else operations) := by
  by_cases hcondition : condition
  · simp only [if_pos hcondition]
    exact fun _ diagram hstep hdistinct hbefore =>
      ⟨rfl, id, diagram, hstep, hdistinct, hkeeps hcondition diagram hbefore⟩
  · simp only [if_neg hcondition]
    exact h hcondition

/-- A mutation that is not refused and brings nothing that is in use. -/
theorem carries_perform {mutation : Mutation κ} (record : Bool)
    (h : ∀ diagram, diagram.Distinct → before diagram → ∃ change,
      mutation.change diagram = .ok change ∧ mutation.BringsNew diagram ∧
        ∀ time, after (change.diagram.touched time)) :
    Carries before after fun workspace => workspace.perform mutation record := by
  intro workspace diagram hstep hdistinct hbefore
  obtain ⟨change, hchange, hnew, hafter⟩ := h diagram hdistinct hbefore
  have heffect := Mutation.change_effect hchange
  have hnext := heffect.distinct hdistinct hnew
  obtain ⟨hok, hin⟩ := hstep.perform hdistinct hchange hnext record
  refine ⟨hok, ?_, _, hin, Diagram.distinct_touched.mpr hnext, hafter _⟩
  intro hhistory
  dsimp only
  rw [perform_session record hstep.loaded hchange]
  cases record with
  | false => exact hhistory
  | true => exact hhistory.record (heffect.step hnext) _ _

end Workspace

/-! ## The operations of a plan -/

/-- The tables and the relationships of a diagram carry the given identifiers, in order. -/
def Diagram.Lists (tables links : List Identifier) (diagram : Diagram κ) : Prop :=
  diagram.tables.map Table.id = tables ∧ diagram.relationships.map Relationship.id = links

/-- What a plan creates carries identifiers that differ from each other and from those in use. -/
structure Plan.New (plan : Plan κ) (live : List (Table κ)) (linked : List Relationship) : Prop where
  tables : (live.map Table.id ++ plan.createdTables.map Table.id).Nodup
  relationships :
    (linked.map Relationship.id ++ plan.createdRelationships.map Relationship.id).Nodup

namespace Workspace

variable {tables links : List Identifier}

theorem carries_deleteTables {live : List (Table κ)} {linked : List Relationship}
    {ids : List Identifier} (hlive : ∀ id ∈ ids, id ∈ live.map Table.id) (record : Bool) :
    Carries (fun diagram => diagram.tables = live ∧ diagram.relationships = linked)
      (Diagram.Lists ((live.filter fun table => !ids.contains table.id).map Table.id)
        ((surviving ids linked).map Relationship.id))
      fun workspace => workspace.runAll (if ids.isEmpty then []
        else [fun workspace => workspace.perform (.removeTables ids) record]) := by
  apply carries_unless
  · intro hnone diagram hbefore
    obtain rfl := List.isEmpty_iff.mp hnone
    obtain ⟨rfl, rfl⟩ := hbefore
    simp [Diagram.Lists, surviving, Relationship.touchesAny]
  · intro hsome
    refine (carries_perform record fun diagram _ hbefore => ?_).single
    obtain ⟨rfl, rfl⟩ := hbefore
    obtain ⟨id, hid⟩ := List.exists_mem_of_ne_nil ids (by simpa using hsome)
    obtain ⟨change, hchange, hafter⟩ := Mutation.removeTables_leads diagram ids fun _ =>
      takePositioned_ne_nil hid (hlive id hid)
    refine ⟨change, hchange, trivial, fun time => ?_⟩
    rw [hafter, Diagram.Lists, Diagram.tables_touched, Diagram.relationships_touched,
      relationships_withoutTables hlive, Mutation.withoutTables, takePositioned_snd]
    exact ⟨rfl, rfl⟩

theorem carries_updateTable {id : Identifier} (hid : id ∈ tables) (patch : TablePatch κ)
    (record : Bool) : Carries (Diagram.Lists tables links) (Diagram.Lists tables links)
      fun workspace => workspace.perform (.updateTable id patch) record := by
  refine carries_perform record fun diagram _ hbefore => ?_
  obtain ⟨rfl, rfl⟩ := hbefore
  cases hfind : diagram.table? id with
  | none => exact absurd hid (Diagram.table?_eq_none_iff.mp hfind)
  | some table =>
      obtain ⟨change, hchange, hafter⟩ := Mutation.updateTable_leads hfind patch
      refine ⟨change, hchange, trivial, fun time => ?_⟩
      rw [hafter]
      exact ⟨map_updateFirst (fun table => Table.id_apply table patch) _, rfl⟩

theorem carries_addTables {created : List (Table κ)}
    (hnew : (tables ++ created.map Table.id).Nodup) (record : Bool) :
    Carries (Diagram.Lists tables links)
      (Diagram.Lists (tables ++ created.map Table.id) links)
      fun workspace => workspace.perform (.addTables created) record := by
  refine carries_perform record fun diagram _ hbefore => ?_
  obtain ⟨rfl, rfl⟩ := hbefore
  refine ⟨_, rfl, ?_, fun time => ⟨?_, rfl⟩⟩
  · rwa [Mutation.BringsNew, List.map_append]
  · simp only [Mutation.insertTablesChange, insertPositioned_positionedFrom_length,
      Diagram.tables_touched, List.map_append]

theorem carries_placeTables [Coordinate κ] {ids : List Identifier}
    (hids : ∀ id ∈ ids, id ∈ tables) (record : Bool) :
    Carries (Diagram.Lists tables links) (Diagram.Lists (κ := κ) tables links)
      (placeTables ids record) := by
  intro workspace
  refine carries_runAll ?_ workspace
  intro operation hoperation
  obtain ⟨position, hposition, rfl⟩ := List.mem_map.mp hoperation
  intro workspace diagram hstep hdistinct hbefore
  have hid := hids position.tableId (Layout.mem_of_mem_placeAll hposition)
  obtain ⟨hok, hhistory, next, hnext, hafter⟩ :=
    carries_updateTable hid { position := some (position.x, position.y) } record workspace
      diagram hstep hdistinct hbefore
  exact ⟨hok, hhistory, next, hnext.of_session rfl, hafter⟩

theorem carries_createTables [Coordinate κ] {created : List (Table κ)}
    (hnew : (tables ++ created.map Table.id).Nodup) (record : Bool) :
    Carries (Diagram.Lists tables links)
      (Diagram.Lists (tables ++ created.map Table.id) links)
      fun workspace => workspace.runAll (if created.isEmpty then []
        else [fun workspace => workspace.perform (.addTables created) record,
          placeTables (created.map Table.id) record]) := by
  apply carries_unless
  · intro hnone diagram hbefore
    obtain rfl := List.isEmpty_iff.mp hnone
    rwa [List.map_nil, List.append_nil]
  · intro _
    have hplaced : Carries (Diagram.Lists (tables ++ created.map Table.id) links)
        (Diagram.Lists (κ := κ) (tables ++ created.map Table.id) links)
        (placeTables (created.map Table.id) record) :=
      carries_placeTables (fun id hid => List.mem_append_right tables hid) record
    exact (carries_addTables hnew record).single.append _ hplaced.single

theorem carries_deleteRelationships {ids : List Identifier} (hlive : ∀ id ∈ ids, id ∈ links)
    (record : Bool) :
    Carries (Diagram.Lists (κ := κ) tables links)
      (Diagram.Lists tables (links.filter fun id => !ids.contains id))
      fun workspace => workspace.runAll (if ids.isEmpty then []
        else [fun workspace => workspace.perform (.removeRelationships ids) record]) := by
  apply carries_unless
  · intro hnone diagram hbefore
    obtain rfl := List.isEmpty_iff.mp hnone
    simpa using hbefore
  · intro hsome
    refine (carries_perform record fun diagram _ hbefore => ?_).single
    obtain ⟨rfl, rfl⟩ := hbefore
    obtain ⟨id, hid⟩ := List.exists_mem_of_ne_nil ids (by simpa using hsome)
    obtain ⟨change, hchange, hafter⟩ := Mutation.removeRelationships_leads diagram ids fun _ =>
      takePositioned_ne_nil hid (hlive id hid)
    refine ⟨change, hchange, trivial, fun time => ⟨?_, ?_⟩⟩
    · rw [hafter]
      rfl
    · rw [hafter, Diagram.relationships_touched, takePositioned_snd, List.filter_map]
      rfl

theorem carries_updateRelationship {id : Identifier} (hid : id ∈ links)
    (patch : RelationshipPatch) (record : Bool) :
    Carries (Diagram.Lists (κ := κ) tables links) (Diagram.Lists tables links)
      fun workspace => workspace.perform (.updateRelationship id patch) record := by
  refine carries_perform record fun diagram _ hbefore => ?_
  obtain ⟨rfl, rfl⟩ := hbefore
  cases hfind : diagram.relationship? id with
  | none => exact absurd hid (Diagram.relationship?_eq_none_iff.mp hfind)
  | some relationship =>
      obtain ⟨change, hchange, hafter⟩ := Mutation.updateRelationship_leads hfind patch
      refine ⟨change, hchange, trivial, fun time => ?_⟩
      rw [hafter]
      exact ⟨rfl, map_updateFirst (fun link => Relationship.id_apply link patch) _⟩

theorem carries_createRelationships {created : List Relationship}
    (hnew : (links ++ created.map Relationship.id).Nodup) (record : Bool) :
    Carries (Diagram.Lists (κ := κ) tables links)
      (Diagram.Lists tables (links ++ created.map Relationship.id))
      fun workspace => workspace.runAll (if created.isEmpty then []
        else [fun workspace => workspace.perform (.addRelationships created) record]) := by
  apply carries_unless
  · intro hnone diagram hbefore
    obtain rfl := List.isEmpty_iff.mp hnone
    rwa [List.map_nil, List.append_nil]
  · intro _
    refine (carries_perform record fun diagram _ hbefore => ?_).single
    obtain ⟨rfl, rfl⟩ := hbefore
    obtain ⟨change, hchange, hafter⟩ := Mutation.addRelationships_leads diagram created
    refine ⟨change, hchange, ?_, fun time => ?_⟩
    · rwa [Mutation.BringsNew, List.map_append]
    · rw [hafter]
      exact ⟨rfl, List.map_append⟩

/-! ## All operations -/

/-- A plan that fits the loaded diagram and creates new entities is carried out without failure. -/
theorem carries_planOperations [Coordinate κ] {plan : Plan κ} {live : List (Table κ)}
    {linked : List Relationship} (hfits : plan.Fits live linked) (hnew : plan.New live linked)
    (record : Bool) :
    Carries (fun diagram => diagram.tables = live ∧ diagram.relationships = linked)
      (fun _ => True)
      fun workspace => workspace.runAll (planOperations plan record) := by
  have hleft : ∀ id, id ∈ linked.map Relationship.id →
      id ∈ plan.deletedRelationships ∨ id ∈ plan.updatedRelationships.map Prod.fst →
      id ∈ (surviving plan.deletedTables linked).map Relationship.id := by
    intro id hid htouched
    obtain ⟨link, hlink, rfl⟩ := List.mem_map.mp hid
    refine List.mem_map_of_mem (List.mem_filter.mpr ⟨hlink, ?_⟩)
    rw [hfits.relationships_left link hlink htouched]
    rfl
  have hupdatedTable : ∀ update ∈ plan.updatedTables, update.1 ∈
      (live.filter fun table => !plan.deletedTables.contains table.id).map Table.id := by
    intro update hupdate
    obtain ⟨table, htable, hid⟩ := List.mem_map.mp (hfits.updatedTables_live update hupdate)
    rw [← hid]
    refine List.mem_map_of_mem (List.mem_filter.mpr ⟨htable, ?_⟩)
    simpa [hid] using hfits.tables_apart update hupdate
  have hcreatedTables : ((live.filter fun table =>
      !plan.deletedTables.contains table.id).map Table.id ++
        plan.createdTables.map Table.id).Nodup :=
    hnew.tables.sublist ((List.filter_sublist.map Table.id).append_right _)
  have hcreatedRelationships : (((surviving plan.deletedTables linked).map
      Relationship.id).filter (fun id => !plan.deletedRelationships.contains id) ++
        plan.createdRelationships.map Relationship.id).Nodup :=
    hnew.relationships.sublist (List.Sublist.append_right
      (List.filter_sublist.trans (List.filter_sublist.map Relationship.id)) _)
  unfold planOperations
  refine .append _ (.append _ (.append _ (.append _ (.append _
    (carries_deleteTables hfits.deletedTables_live record) (carries_runAll ?_))
    (carries_createTables hcreatedTables record)) (carries_deleteRelationships ?_ record))
    (carries_runAll ?_)) ?_
  · intro operation hoperation
    obtain ⟨update, hupdate, rfl⟩ := List.mem_map.mp hoperation
    exact carries_updateTable (hupdatedTable update hupdate) update.2 record
  · exact fun id hid => hleft id (hfits.deletedRelationships_live id hid) (.inl hid)
  · intro operation hoperation
    obtain ⟨update, hupdate, rfl⟩ := List.mem_map.mp hoperation
    apply carries_updateRelationship
    rw [List.mem_filter]
    refine ⟨hleft update.1 (hfits.updatedRelationships_live update hupdate)
      (.inr (List.mem_map_of_mem hupdate)), ?_⟩
    simpa using hfits.relationships_apart update hupdate
  · intro workspace diagram hstep hdistinct hbefore
    obtain ⟨hok, hhistory, next, hnext, hafter, -⟩ :=
      carries_createRelationships hcreatedRelationships record workspace diagram hstep hdistinct
        hbefore
    exact ⟨hok, hhistory, next, hnext, hafter, trivial⟩

/-- Carrying out a plan that fits does not fail, and leaves the session in step. -/
theorem InStep.applyPlan [Coordinate κ] {workspace : Workspace (MemoryStorage κ) κ}
    {diagram : Diagram κ} (h : workspace.InStep diagram) (hdistinct : diagram.Distinct)
    {plan : Plan κ} (hfits : plan.Fits diagram.tables diagram.relationships)
    (hnew : plan.New diagram.tables diagram.relationships) (record : Bool) :
    (workspace.applyPlan plan record).1 = .ok () ∧
      (workspace.session.history.BringsDistinct →
        (workspace.applyPlan plan record).2.session.history.BringsDistinct) ∧
      ∃ after, (workspace.applyPlan plan record).2.InStep after ∧ after.Distinct := by
  have hloaded : workspace.session.diagram?.isNone = false := by
    rw [h.loaded]
    rfl
  rw [Workspace.applyPlan, hloaded, if_neg Bool.false_ne_true]
  by_cases hempty : plan.isEmpty = true
  · rw [if_pos hempty]
    exact ⟨rfl, id, diagram, h, hdistinct⟩
  · rw [if_neg hempty]
    cases record with
    | false =>
        obtain ⟨hok, hhistory, after, hafter, hdistinct', -⟩ :=
          carries_planOperations hfits hnew false workspace diagram h hdistinct ⟨rfl, rfl⟩
        exact ⟨hok, hhistory, after, hafter, hdistinct'⟩
    | true =>
        have hopened : (workspace.mapHistory History.beginGroup).InStep diagram :=
          h.of_session rfl
        obtain ⟨hok, hhistory, after, hafter, hdistinct', -⟩ :=
          carries_planOperations hfits hnew true _ diagram hopened hdistinct ⟨rfl, rfl⟩
        exact ⟨hok, fun hbrings => (hhistory hbrings.beginGroup).endGroup, after,
          hafter.of_session rfl, hdistinct'⟩

end Workspace

end SchemaDiagram
