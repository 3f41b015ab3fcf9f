import SchemaDiagram.Proofs.Reconciliation.Origin
import SchemaDiagram.Proofs.Session.Trail

/-!
# Recording a plan

While a group is open, every mutation that is carried out adds its step to the group, and the steps
of the group form a trail from the diagram at which it was opened.  A plan that was made for the
diagram at hand leaves at least one step there unless it is empty, so that closing the group records
exactly one command for it.
-/

namespace SchemaDiagram

variable {σ κ : Type}

/-- A command connects two diagrams: its steps do, and it keeps the times of both. -/
structure Command.Connects (command : Command (Step κ)) (before after : Diagram κ) : Prop where
  trail : Step.Trail command.action.steps before after
  undoUpdatedAt : command.undoUpdatedAt = before.updatedAt
  redoUpdatedAt : command.redoUpdatedAt = after.updatedAt

theorem Action.stepsOfAll_append {α : Type} (first second : List (Action α)) :
    Action.stepsOfAll (first ++ second) =
      Action.stepsOfAll first ++ Action.stepsOfAll second := by
  induction first with
  | nil => rfl
  | cons action rest ih => simp [Action.stepsOfAll, ih]

/-- The command of a group has the steps that were collected, whether or not it is a batch. -/
theorem Group.command?_eq_some {α : Type} {group : Group α} {before after : Timestamp}
    (h : group.bounds = some (before, after)) :
    ∃ action, group.command? = some ⟨action, before, after⟩ ∧
      action.steps = Action.stepsOfAll group.actions := by
  rw [Group.command?, h]
  dsimp only [Option.map_some]
  split
  · next action hsingle => exact ⟨action, rfl, by simp [hsingle, Action.stepsOfAll]⟩
  · exact ⟨.batch group.actions, rfl, by simp [Action.steps]⟩

namespace Workspace

/-- A workspace with an open group whose steps lead from one diagram to the present one. -/
structure Recording (workspace : Workspace σ κ) (start : Diagram κ) (history : History (Step κ))
    (present : Diagram κ) (group : Group (Step κ)) : Prop where
  diagram : workspace.session.diagram? = some present
  history : workspace.session.history = { history with group := some group }
  trail : Step.Trail (Action.stepsOfAll group.actions) start present
  bounds : group.actions ≠ [] → group.bounds = some (start.updatedAt, present.updatedAt)
  unbounded : group.actions = [] → group.bounds = none ∧ present = start

theorem Recording.emit {workspace : Workspace σ κ} {start present : Diagram κ}
    {history : History (Step κ)} {group : Group (Step κ)}
    (h : workspace.Recording start history present group) (events : List Event) :
    (workspace.withSession (workspace.session.emit events)).Recording start history present
      group :=
  ⟨h.diagram, h.history, h.trail, h.bounds, h.unbounded⟩

/-! ## Operations that are recorded -/

/-- An operation goes on with a recording, from diagrams with one property to diagrams with
another one. -/
def Continues (before after : Diagram κ → Prop) (operation : Workspace σ κ → Answer σ κ Unit) :
    Prop :=
  ∀ workspace start history present group, workspace.Recording start history present group →
    before present → ∃ present' group',
      (operation workspace).2.Recording start history present' group' ∧ after present'

theorem continues_nil (property : Diagram κ → Prop) :
    Continues (σ := σ) property property fun workspace => workspace.runAll [] :=
  fun _ _ _ present group hrecording hbefore => ⟨present, group, hrecording, hbefore⟩

theorem Continues.append {before after : Diagram κ → Prop} (between : Diagram κ → Prop)
    {first second : List (Workspace σ κ → Answer σ κ Unit)}
    (hfirst : Continues before between fun workspace => workspace.runAll first)
    (hsecond : Continues between after fun workspace => workspace.runAll second) :
    Continues before after fun workspace => workspace.runAll (first ++ second) := by
  intro workspace start history present group hrecording hbefore
  obtain ⟨next, group', hnext, hbetween⟩ := hfirst _ _ _ _ _ hrecording hbefore
  obtain ⟨last, group'', hlast, hafter⟩ := hsecond _ _ _ _ _ hnext hbetween
  refine ⟨last, group'', ?_, hafter⟩
  dsimp only
  rw [runAll_append]
  exact hlast

theorem Continues.single {before after : Diagram κ → Prop}
    {operation : Workspace σ κ → Answer σ κ Unit} (h : Continues before after operation) :
    Continues before after fun workspace => workspace.runAll [operation] := by
  intro workspace start history present group hrecording hbefore
  simp only [runAll_singleton]
  exact h _ _ _ _ _ hrecording hbefore

theorem Continues.pair {before between after : Diagram κ → Prop}
    {first second : Workspace σ κ → Answer σ κ Unit} (hfirst : Continues before between first)
    (hsecond : Continues between after second) :
    Continues before after fun workspace => workspace.runAll [first, second] :=
  .append between hfirst.single hsecond.single

theorem continues_runAll {property : Diagram κ → Prop}
    {operations : List (Workspace σ κ → Answer σ κ Unit)}
    (h : ∀ operation ∈ operations, Continues property property operation) :
    Continues property property fun workspace => workspace.runAll operations := by
  induction operations with
  | nil => exact continues_nil property
  | cons operation rest ih =>
      have hrest := ih fun other hother => h other (List.mem_cons_of_mem _ hother)
      exact .append property (h operation List.mem_cons_self).single hrest

/-! ## Mutations that are recorded -/

variable [Storage σ κ]

/-- A mutation that is carried out adds its step to the group. -/
theorem Recording.perform {workspace : Workspace σ κ} {start present : Diagram κ}
    {history : History (Step κ)} {group : Group (Step κ)} {mutation : Mutation κ}
    {change : Change κ} (h : workspace.Recording start history present group)
    (hadmissible : mutation.Admissible present) (hchange : mutation.change present = .ok change) :
    (workspace.perform mutation true).2.Recording start history
      (change.diagram.touched (workspace.session.supply.get 0).time)
      (group.add (.step change.step) present.updatedAt (workspace.session.supply.get 0).time) := by
  have hsession := perform_session true h.diagram hchange
  have hnonempty : (group.add (.step change.step) present.updatedAt
      (workspace.session.supply.get 0).time).actions ≠ [] := by simp [Group.add]
  constructor
  · rw [hsession]
    rfl
  · rw [hsession]
    simp only [Session.commit, Session.recordStep, Session.emit, Session.draw, if_true,
      h.history, History.record]
  · simp only [Group.add, Action.stepsOfAll_append]
    refine h.trail.append ?_
    simpa [Action.stepsOfAll, Action.steps] using
      (hadmissible.connects hchange).trail.touched (workspace.session.supply.get 0).time
  · intro _
    by_cases hactions : group.actions = []
    · obtain ⟨hbounds, rfl⟩ := h.unbounded hactions
      simp [Group.add, hbounds]
    · simp [Group.add, h.bounds hactions]
  · exact fun hempty => absurd hempty hnonempty

/-- A recorded mutation goes on with a recording, whether it is carried out or refused. -/
theorem continues_perform {before after : Diagram κ → Prop} {mutation : Mutation κ}
    (hadmissible : ∀ diagram, before diagram → mutation.Admissible diagram)
    (hkeeps : ∀ diagram, before diagram → after diagram)
    (hchange : ∀ diagram change time, before diagram → mutation.change diagram = .ok change →
      after (change.diagram.touched time)) :
    Continues (σ := σ) before after fun workspace => workspace.perform mutation true := by
  intro workspace start history present group hrecording hbefore
  cases h : mutation.change present with
  | error error =>
      refine ⟨present, group, ?_, hkeeps present hbefore⟩
      dsimp only
      rw [perform_of_refusal true hrecording.diagram h]
      exact hrecording
  | ok change =>
      exact ⟨_, _, hrecording.perform (hadmissible present hbefore) h,
        hchange present change _ hbefore h⟩

end Workspace

end SchemaDiagram
