import SchemaDiagram.Proofs.Session.Reached
import SchemaDiagram.Proofs.Session.ReplayInStep

/-!
# Commands that begin with what vanishes

One mutation undoes a step, unless links went with the tables that the step removed or replaced:
these are put back by mutations of their own.  A plan removes tables before it does anything else,
so that within a command only the first step can be of that kind.  Undoing a command comes to it
last.
-/

namespace SchemaDiagram

variable {σ κ : Type}

/-! ## Steps that one mutation undoes -/

/-- At most one mutation undoes a step. -/
def Step.Simple (step : Step κ) : Prop :=
  step.undo.length ≤ 1

/-- Behind the first one, all steps are simple. -/
def Step.Headed (steps : List (Step κ)) : Prop :=
  ∀ step ∈ steps.tail, step.Simple

theorem Step.headed_singleton (step : Step κ) : Headed [step] :=
  fun _ hmem => absurd hmem List.not_mem_nil

theorem Step.Headed.concat {steps : List (Step κ)} (h : Headed steps) {step : Step κ}
    (hstep : steps = [] ∨ step.Simple) : Headed (steps ++ [step]) := by
  cases steps with
  | nil => exact headed_singleton step
  | cons first rest =>
      intro other hmem
      rcases List.mem_append.mp hmem with hold | hlast
      · exact h other hold
      · obtain rfl := List.mem_singleton.mp hlast
        exact hstep.resolve_left (List.cons_ne_nil _ _)

/-- A mutation records simple steps only. -/
def Mutation.Simple (mutation : Mutation κ) : Prop :=
  ∀ diagram change, mutation.change diagram = .ok change → change.step.Simple

namespace Mutation

theorem simple_updateTable (id : Identifier) (patch : TablePatch κ) :
    (updateTable id patch).Simple := by
  intro diagram change hchange
  obtain ⟨before, -, hrest⟩ := orRefuse_bind_eq_ok_iff.mp hchange
  obtain rfl := Except.ok.inj hrest
  exact Nat.le_refl 1

theorem simple_addTables (tables : List (Table κ)) : (addTables tables).Simple := by
  intro diagram change hchange
  obtain rfl := Except.ok.inj hchange
  exact Nat.le_refl 1

theorem simple_removeRelationships (ids : List Identifier) :
    (removeRelationships ids : Mutation κ).Simple := by
  intro diagram change hchange
  rw [(removeRelationshipsChange_eq_ok hchange).2]
  exact Nat.le_refl 1

theorem simple_updateRelationship (id : Identifier) (patch : RelationshipPatch) :
    (updateRelationship id patch : Mutation κ).Simple := by
  intro diagram change hchange
  obtain ⟨before, -, hrest⟩ := orRefuse_bind_eq_ok_iff.mp hchange
  obtain rfl := Except.ok.inj hrest
  exact Nat.le_refl 1

theorem simple_addRelationships (relationships : List Relationship) :
    (addRelationships relationships : Mutation κ).Simple := by
  intro diagram change hchange
  obtain rfl := Except.ok.inj hchange
  exact Nat.le_refl 1

end Mutation

/-! ## Histories -/

namespace History

/-- The commands of a history are headed, and so is what an open group has collected. -/
structure Headed (history : History (Step κ)) : Prop where
  commands : ∀ command ∈ history.commands, Step.Headed command.action.steps
  group : ∀ group, history.group = some group →
    Step.Headed (Action.stepsOfAll group.actions)

/-- What an open group has collected leaves room for a step. -/
def Admits (history : History (Step κ)) (step : Step κ) : Prop :=
  ∀ group, history.group = some group → Action.stepsOfAll group.actions = [] ∨ step.Simple

variable {history : History (Step κ)}

theorem headed_empty : (empty : History (Step κ)).Headed :=
  ⟨fun _ hmem => absurd hmem List.not_mem_nil, fun _ hgroup => (by cases hgroup)⟩

theorem Headed.push (h : history.Headed) {command : Command (Step κ)}
    (hcommand : Step.Headed command.action.steps) : (history.push command).Headed := by
  constructor
  · intro other hother
    simp only [History.commands, History.push, List.reverse_nil, List.append_nil, List.mem_append,
      List.mem_singleton] at hother
    rcases hother with hold | rfl
    · exact h.commands other (List.mem_append_left _ hold)
    · exact hcommand
  · exact h.group

theorem Headed.record (h : history.Headed) {step : Step κ} (hstep : history.Admits step)
    (before after : Timestamp) : (history.record (.step step) before after).Headed := by
  unfold History.record
  cases hgroup : history.group with
  | none => exact h.push (Step.headed_singleton step)
  | some group =>
      refine ⟨h.commands, fun other hother => ?_⟩
      obtain rfl := Option.some.inj hother
      simp only [Group.add, Action.stepsOfAll_append]
      exact (h.group group hgroup).concat (hstep group hgroup)

theorem Headed.beginGroup (h : history.Headed) : history.beginGroup.Headed := by
  unfold History.beginGroup
  split
  · exact h
  · refine ⟨h.commands, fun group hgroup => ?_⟩
    obtain rfl := Option.some.inj hgroup
    exact fun _ hmem => absurd hmem List.not_mem_nil

theorem Headed.endGroup (h : history.Headed) : history.endGroup.Headed := by
  unfold History.endGroup
  cases hgroup : history.group with
  | none => exact h
  | some group =>
      have hclosed : Headed { history with group := none } :=
        ⟨h.commands, fun _ hnone => (by cases hnone)⟩
      cases hcommand : group.command? with
      | none => simpa only [hcommand] using hclosed
      | some command =>
          simp only [hcommand]
          apply hclosed.push
          obtain ⟨⟨before, after⟩, hbounds, -⟩ := Option.map_eq_some_iff.mp hcommand
          obtain ⟨action, haction, hsteps⟩ := Group.command?_eq_some hbounds
          obtain rfl := Option.some.inj (haction.symm.trans hcommand)
          rw [hsteps]
          exact h.group group hgroup

theorem popLast?_eq_some {α : Type} {stack rest : List α} {last : α}
    (h : popLast? stack = some (last, rest)) : stack = rest ++ [last] := by
  obtain ⟨found, hfound, hsame⟩ := Option.map_eq_some_iff.mp h
  obtain ⟨rfl, rfl⟩ := Prod.mk.inj hsame
  exact (List.dropLast_append_getLast? found hfound).symm

/-- The command to undo next is moved, and none is lost. -/
theorem commands_of_popUndo? {command : Command (Step κ)} {popped : History (Step κ)}
    (h : history.popUndo? = some (command, popped)) :
    (popped.pushRedo command).commands = history.commands ∧ popped.group = history.group := by
  obtain ⟨⟨last, rest⟩, hlast, hsame⟩ := Option.map_eq_some_iff.mp h
  obtain ⟨rfl, rfl⟩ := Prod.mk.inj hsame
  refine ⟨?_, rfl⟩
  simp [History.commands, pushRedo, popLast?_eq_some hlast]

/-- The command to redo next is moved, and none is lost. -/
theorem commands_of_popRedo? {command : Command (Step κ)} {popped : History (Step κ)}
    (h : history.popRedo? = some (command, popped)) :
    (popped.pushUndo command).commands = history.commands ∧ popped.group = history.group := by
  obtain ⟨⟨last, rest⟩, hlast, hsame⟩ := Option.map_eq_some_iff.mp h
  obtain ⟨rfl, rfl⟩ := Prod.mk.inj hsame
  refine ⟨?_, rfl⟩
  simp [History.commands, pushUndo, popLast?_eq_some hlast]

end History

/-! ## Operations -/

namespace Workspace

/-- Whatever it answers, an operation keeps a history headed. -/
def KeepsHeaded (operation : Workspace σ κ → Answer σ κ Unit) : Prop :=
  ∀ workspace, workspace.session.history.Headed → (operation workspace).2.session.history.Headed

theorem keepsHeaded_runAll {operations : List (Workspace σ κ → Answer σ κ Unit)}
    (h : ∀ operation ∈ operations, KeepsHeaded operation) :
    KeepsHeaded fun workspace => workspace.runAll operations := by
  induction operations with
  | nil => exact fun _ hheaded => hheaded
  | cons operation rest ih =>
      intro workspace hheaded
      have hfirst := h operation List.mem_cons_self workspace hheaded
      exact ih (fun other hother => h other (List.mem_cons_of_mem _ hother)) _ hfirst

variable [Storage σ κ]

theorem perform_headed (workspace : Workspace σ κ) {mutation : Mutation κ}
    (h : workspace.session.history.Headed)
    (hstep : ∀ diagram change, mutation.change diagram = .ok change →
      workspace.session.history.Admits change.step) :
    (workspace.perform mutation true).2.session.history.Headed := by
  cases hloaded : workspace.session.diagram? with
  | none =>
      rw [perform_of_unloaded mutation true hloaded]
      exact h
  | some diagram =>
      cases hchange : mutation.change diagram with
      | error error =>
          rw [perform_of_refusal true hloaded hchange]
          exact h
      | ok change =>
          rw [perform_session true hloaded hchange]
          exact h.record (hstep diagram change hchange) _ _

theorem keepsHeaded_perform {mutation : Mutation κ} (h : mutation.Simple) :
    KeepsHeaded (σ := σ) fun workspace => workspace.perform mutation true :=
  fun workspace hheaded => perform_headed workspace hheaded fun diagram change hchange _ _ =>
    .inr (h diagram change hchange)

theorem keepsHeaded_placeTables [Coordinate κ] (ids : List Identifier) :
    KeepsHeaded (σ := σ) (placeTables (κ := κ) ids true) := by
  intro workspace
  refine keepsHeaded_runAll ?_ workspace
  intro operation hoperation
  obtain ⟨position, -, rfl⟩ := List.mem_map.mp hoperation
  exact fun workspace hheaded =>
    keepsHeaded_perform (Mutation.simple_updateTable position.tableId _) workspace hheaded

/-- The operations of a plan remove tables first, into a group that has collected nothing. -/
theorem planOperations_headed [Coordinate κ] {workspace : Workspace σ κ} (plan : Plan κ)
    (h : workspace.session.history.Headed)
    (hgroup : ∀ group, workspace.session.history.group = some group →
      Action.stepsOfAll group.actions = []) :
    (workspace.runAll (planOperations plan true)).2.session.history.Headed := by
  simp only [planOperations, List.append_assoc]
  rw [runAll_append]
  refine keepsHeaded_runAll ?_ _ ?_
  · intro operation hoperation
    simp only [List.mem_append, List.mem_map] at hoperation
    rcases hoperation with ⟨update, -, rfl⟩ | h | h | ⟨update, -, rfl⟩ | h
    · exact keepsHeaded_perform (Mutation.simple_updateTable _ _)
    · split at h
      · exact absurd h List.not_mem_nil
      · rcases List.mem_cons.mp h with rfl | h
        · exact keepsHeaded_perform (Mutation.simple_addTables _)
        · obtain rfl := List.mem_singleton.mp h
          exact keepsHeaded_placeTables _
    · split at h
      · exact absurd h List.not_mem_nil
      · obtain rfl := List.mem_singleton.mp h
        exact keepsHeaded_perform (Mutation.simple_removeRelationships _)
    · exact keepsHeaded_perform (Mutation.simple_updateRelationship _ _)
    · split at h
      · exact absurd h List.not_mem_nil
      · obtain rfl := List.mem_singleton.mp h
        exact keepsHeaded_perform (Mutation.simple_addRelationships _)
  · by_cases hnone : plan.deletedTables.isEmpty = true
    · rw [if_pos hnone]
      exact h
    · rw [if_neg hnone, runAll_singleton]
      exact perform_headed _ h fun _ _ _ group hsome => .inl (hgroup group hsome)

theorem applyPlan_headed [Coordinate κ] (workspace : Workspace σ κ) (plan : Plan κ)
    (h : workspace.session.history.Headed) (hidle : workspace.session.history.group = none) :
    (workspace.applyPlan plan true).2.session.history.Headed := by
  unfold applyPlan
  split
  · exact h
  · split
    · exact h
    · refine History.Headed.endGroup (planOperations_headed plan h.beginGroup ?_)
      intro group hgroup
      simp only [mapHistory, withSession, History.beginGroup, hidle] at hgroup
      obtain rfl := Option.some.inj hgroup
      rfl

theorem edit_headed [Coordinate κ] {workspace : Workspace σ κ} (edit : Edit κ)
    (h : workspace.session.history.Headed) (hidle : workspace.session.history.group = none) :
    (edit.run workspace).session.history.Headed := by
  have hone : ∀ {α : Type} (mutation : Mutation κ) (count : Nat) (entity : α),
      (workspace.performFor count mutation entity).2.session.history.Headed := by
    intro α mutation count entity
    refine perform_headed (workspace.withSession _) h fun _ _ _ group hgroup => ?_
    exact absurd (hgroup.symm.trans hidle) (by simp)
  cases edit with
  | mutate mutation =>
      refine perform_headed workspace h fun _ _ _ group hgroup => ?_
      rw [hidle] at hgroup
      cases hgroup
  | createTable attributes => exact hone _ 2 _
  | createField tableId =>
      simp only [Edit.run, createField]
      split
      · exact h
      · exact hone _ 1 _
  | createIndex tableId =>
      simp only [Edit.run, createIndex]
      split
      · exact h
      · exact hone _ 1 _
  | createRelationship source target =>
      simp only [Edit.run, createRelationship]
      split
      · exact h
      · exact hone _ 1 _
  | createDependency tableId dependentTableId =>
      simp only [Edit.run, createDependency]
      split
      · exact h
      · exact hone _ 1 _
  | applyText text =>
      simp only [Edit.run, applyText]
      split
      · exact h
      · exact applyPlan_headed (workspace.withSession _) _ h hidle

theorem undo_headed {workspace : Workspace σ κ} (h : workspace.session.history.Headed) :
    workspace.undo.2.session.history.Headed := by
  cases hpopped : workspace.session.history.popUndo? with
  | none =>
      simp only [undo, hpopped]
      exact h
  | some popped =>
      obtain ⟨command, history⟩ := popped
      obtain ⟨hcommands, hgroup⟩ := History.commands_of_popUndo? hpopped
      rw [undo_history hpopped]
      refine ⟨?_, fun group hsome => h.group group (hgroup ▸ hsome)⟩
      rw [hcommands]
      exact h.commands

theorem redo_headed {workspace : Workspace σ κ} (h : workspace.session.history.Headed) :
    workspace.redo.2.session.history.Headed := by
  cases hpopped : workspace.session.history.popRedo? with
  | none =>
      simp only [redo, hpopped]
      exact h
  | some popped =>
      obtain ⟨command, history⟩ := popped
      obtain ⟨hcommands, hgroup⟩ := History.commands_of_popRedo? hpopped
      rw [redo_history hpopped]
      refine ⟨?_, fun group hsome => h.group group (hgroup ▸ hsome)⟩
      rw [hcommands]
      exact h.commands

/-- In every history that a session comes to, all commands are headed. -/
theorem Reached.headed [Coordinate κ] {start workspace : Workspace σ κ} {timeline : Timeline κ}
    (h : start.Reached workspace timeline) : workspace.session.history.Headed := by
  induction h with
  | loaded hloaded hhistory =>
      rw [hhistory]
      exact History.headed_empty
  | passed edit hreached _ _ ih => exact edit_headed edit ih hreached.onTimeline.idle
  | entered edit hreached _ _ _ ih => exact edit_headed edit ih hreached.onTimeline.idle
  | undone _ _ ih => exact undo_headed ih
  | redone _ ih => exact redo_headed ih

end Workspace

end SchemaDiagram
