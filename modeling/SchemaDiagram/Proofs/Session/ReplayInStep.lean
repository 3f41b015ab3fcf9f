import SchemaDiagram.Proofs.Session.EditInStep

/-!
# Undo and redo in step

What is undone and redone lies between diagrams of the timeline, and all of these have distinct
identifiers, so that the storage follows without failure.  Neither undo nor redo changes which
commands there are.
-/

namespace SchemaDiagram

variable {σ κ : Type}

namespace Workspace

/-! ## Commands that stay -/

section Storage

variable [Storage σ κ]

theorem perform_history (workspace : Workspace σ κ) (mutation : Mutation κ) :
    (workspace.perform mutation false).2.session.history = workspace.session.history := by
  cases hloaded : workspace.session.diagram? with
  | none => rw [perform_of_unloaded mutation false hloaded]
  | some diagram =>
      cases hchange : mutation.change diagram with
      | error error => rw [perform_of_refusal false hloaded hchange]
      | ok change =>
          rw [perform_session false hloaded hchange]
          rfl

theorem performUntilError_history (workspace : Workspace σ κ) (mutations : List (Mutation κ)) :
    (workspace.performUntilError mutations).2.session.history = workspace.session.history := by
  induction mutations generalizing workspace with
  | nil => rfl
  | cons mutation rest ih =>
      have hfirst := workspace.perform_history mutation
      rw [performUntilError]
      generalize workspace.perform mutation false = answer at hfirst
      obtain ⟨result, next⟩ := answer
      cases result with
      | error error => exact hfirst
      | ok _ => exact (ih next).trans hfirst

omit [Storage σ κ] in
theorem runAll_history {operations : List (Workspace σ κ → Answer σ κ Unit)}
    (h : ∀ operation ∈ operations, ∀ workspace : Workspace σ κ,
      (operation workspace).2.session.history = workspace.session.history)
    (workspace : Workspace σ κ) :
    (workspace.runAll operations).2.session.history = workspace.session.history := by
  induction operations generalizing workspace with
  | nil => rfl
  | cons operation rest ih =>
      have hfirst := h operation List.mem_cons_self workspace
      have hrest := ih (fun other hother => h other (List.mem_cons_of_mem _ hother))
        (operation workspace).2
      exact hrest.trans hfirst

theorem undoSteps_history (workspace : Workspace σ κ) (action : Action (Step κ)) :
    (workspace.undoSteps action).2.session.history = workspace.session.history := by
  apply runAll_history
  intro operation hoperation
  obtain ⟨step, -, rfl⟩ := List.mem_map.mp hoperation
  exact fun workspace => workspace.performUntilError_history step.undo

theorem redoSteps_history (workspace : Workspace σ κ) (action : Action (Step κ)) :
    (workspace.redoSteps action).2.session.history = workspace.session.history := by
  apply runAll_history
  intro operation hoperation
  obtain ⟨step, -, rfl⟩ := List.mem_map.mp hoperation
  exact fun workspace => workspace.perform_history step.redo

theorem restoreUpdatedAt_history (workspace : Workspace σ κ) (time : Timestamp) :
    (workspace.restoreUpdatedAt time).2.session.history = workspace.session.history := by
  unfold restoreUpdatedAt
  split <;> rfl

/-- Whatever the storage answers, the command that is undone can be redone. -/
theorem undo_history {workspace : Workspace σ κ} {command : Command (Step κ)}
    {history : History (Step κ)}
    (hpopped : workspace.session.history.popUndo? = some (command, history)) :
    workspace.undo.2.session.history = history.pushRedo command := by
  simp only [undo, hpopped]
  change History.pushRedo (Workspace.session _).history _ = _
  rw [restoreUpdatedAt_history, undoSteps_history]
  rfl

/-- Whatever the storage answers, the command that is redone can be undone. -/
theorem redo_history {workspace : Workspace σ κ} {command : Command (Step κ)}
    {history : History (Step κ)}
    (hpopped : workspace.session.history.popRedo? = some (command, history)) :
    workspace.redo.2.session.history = history.pushUndo command := by
  simp only [redo, hpopped]
  change History.pushUndo (Workspace.session _).history _ = _
  rw [restoreUpdatedAt_history, redoSteps_history]
  rfl

end Storage

/-! ## Undo and redo -/

variable {workspace : Workspace (MemoryStorage κ) κ} {timeline : Timeline κ} {diagram : Diagram κ}

/-- Undo is written without failure. -/
theorem InStep.undo (h : workspace.InStep diagram) (htimeline : workspace.OnTimeline timeline)
    (hdistinct : ∀ state ∈ timeline.states, state.Distinct)
    (hbrings : workspace.session.history.BringsDistinct) :
    Served workspace.undo.1 ∧ workspace.undo.2.session.history.BringsDistinct ∧
      ∃ next, workspace.undo.2.InStep next := by
  rcases Nat.eq_zero_or_pos timeline.position with hfirst | hlater
  · rw [htimeline.undo_first hfirst]
    exact ⟨served_ok false, hbrings, diagram, h⟩
  obtain ⟨rest, command, before, after, hstack, -, hpopped, hbefore, hpresent, hconnects⟩ :=
    htimeline.last_undo hlater
  obtain rfl : diagram = after := Option.some.inj (h.loaded.symm.trans hpresent)
  have hsteps : ∀ step ∈ command.action.steps, step.BringsDistinct :=
    hbrings.commands command (List.mem_append_left _ (by simp [hstack]))
  have hopened : (workspace.mapHistory fun _ =>
      { workspace.session.history with undoStack := rest }).InStep
        (diagram.touched diagram.updatedAt) := h.of_session rfl
  obtain ⟨hok, later, hback⟩ := hopened.undo_trail hconnects.trail hsteps
    (hdistinct before (List.mem_of_getElem? hbefore))
  obtain ⟨hrestored, hnext⟩ := hback.restoreUpdatedAt command.undoUpdatedAt
  have hhistory := undo_history hpopped
  refine ⟨?_, ?_, ?_⟩
  · simp only [Workspace.undo, hpopped, undoSteps, hok, hrestored]
    exact served_ok true
  · rw [hhistory]
    refine ⟨?_, hbrings.group⟩
    intro other hother
    apply hbrings.commands other
    simpa [History.commands, History.pushRedo, hstack, or_assoc] using hother
  · simp only [Workspace.undo, hpopped]
    exact ⟨_, hnext.of_session rfl⟩

/-- Redo is written without failure. -/
theorem InStep.redo (h : workspace.InStep diagram) (htimeline : workspace.OnTimeline timeline)
    (hdistinct : diagram.Distinct) (hbrings : workspace.session.history.BringsDistinct) :
    Served workspace.redo.1 ∧ workspace.redo.2.session.history.BringsDistinct ∧
      ∃ next, workspace.redo.2.InStep next := by
  have hbound := htimeline.redoStack_length
  obtain hlast | hearlier : timeline.position + 1 = timeline.states.length ∨
      timeline.position + 1 < timeline.states.length := by omega
  · rw [htimeline.redo_last hlast]
    exact ⟨served_ok false, hbrings, diagram, h⟩
  obtain ⟨rest, command, before, after, hstack, hpopped, -, hpresent, hconnects⟩ :=
    htimeline.last_redo hearlier
  obtain rfl : diagram = before := Option.some.inj (h.loaded.symm.trans hpresent)
  have hsteps : ∀ step ∈ command.action.steps, step.BringsDistinct :=
    hbrings.commands command (List.mem_append_right _ (by simp [hstack]))
  have hopened : (workspace.mapHistory fun _ =>
      { workspace.session.history with redoStack := rest }).InStep
        (diagram.touched diagram.updatedAt) := h.of_session rfl
  obtain ⟨hok, later, hforth⟩ := hopened.redo_trail hconnects.trail hsteps hdistinct
  obtain ⟨hrestored, hnext⟩ := hforth.restoreUpdatedAt command.redoUpdatedAt
  have hhistory := redo_history hpopped
  refine ⟨?_, ?_, ?_⟩
  · simp only [Workspace.redo, hpopped, redoSteps, hok, hrestored]
    exact served_ok true
  · rw [hhistory]
    refine ⟨?_, hbrings.group⟩
    intro other hother
    apply hbrings.commands other
    simpa [History.commands, History.pushUndo, hstack, or_assoc] using hother
  · simp only [Workspace.redo, hpopped]
    exact ⟨_, hnext.of_session rfl⟩

end Workspace

end SchemaDiagram
