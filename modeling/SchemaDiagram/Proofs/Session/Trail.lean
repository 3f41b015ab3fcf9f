import SchemaDiagram.Proofs.Session.Recorded
import SchemaDiagram.Session.Workspace

/-!
# Trails

A trail is a list of steps that connect one diagram with another.  Undoing the steps of a trail from
the last to the first leads a workspace back, and redoing them in order leads it forth.  Undoing a
removal takes several mutations and stops at the first write that fails, so that the way back is
certain only if the storage answers every write; the way forth does not depend on the storage.
-/

namespace SchemaDiagram

variable {σ κ : Type}

/-! ## Lists of steps -/

/-- The steps connect two diagrams, one after another; the time of the last update is left open. -/
def Step.Trail : List (Step κ) → Diagram κ → Diagram κ → Prop
  | [], before, after => ∃ time, after = before.touched time
  | step :: rest, before, after =>
    ∃ between, step.Connects before between ∧ Trail rest between after

namespace Step

theorem Connects.untouched {step : Step κ} {before after : Diagram κ} {time : Timestamp}
    (h : step.Connects (before.touched time) after) : step.Connects before after :=
  ⟨fun other => h.back other, fun other => h.forth other⟩

theorem Trail.touched {steps : List (Step κ)} {before after : Diagram κ}
    (h : Trail steps before after) (time : Timestamp) :
    Trail steps before (after.touched time) := by
  induction steps generalizing before with
  | nil =>
      obtain ⟨other, rfl⟩ := h
      exact ⟨time, rfl⟩
  | cons step rest ih =>
      obtain ⟨between, hstep, hrest⟩ := h
      exact ⟨between, hstep, ih hrest⟩

theorem Trail.append {steps more : List (Step κ)} {before between after : Diagram κ}
    (h : Trail steps before between) (hmore : Trail more between after) :
    Trail (steps ++ more) before after := by
  induction steps generalizing before with
  | nil =>
      obtain ⟨time, rfl⟩ := h
      cases more with
      | nil =>
          obtain ⟨other, rfl⟩ := hmore
          exact ⟨other, rfl⟩
      | cons step more =>
          obtain ⟨next, hstep, hrest⟩ := hmore
          exact ⟨next, hstep.untouched, hrest⟩
  | cons step rest ih =>
      obtain ⟨next, hstep, hrest⟩ := h
      exact ⟨next, hstep, ih hrest⟩

theorem Connects.trail {step : Step κ} {before after : Diagram κ}
    (h : step.Connects before after) : Trail [step] before after :=
  ⟨after, h, ⟨after.updatedAt, rfl⟩⟩

end Step

/-! ## Carrying out mutations -/

/-- An answer that reports no failure of the storage. -/
def Served {α : Type} (result : Except SessionError α) : Prop :=
  ∀ error, result ≠ .error (.storage error)

/-- If two operations can fail in the storage only, so can both of them together. -/
theorem firstError_result {first second : Except SessionError Unit}
    (hfirst : first = .ok () ∨ ∃ error, first = .error (.storage error))
    (hsecond : second = .ok () ∨ ∃ error, second = .error (.storage error)) :
    firstError first second = .ok () ∨
      ∃ error, firstError first second = .error (.storage error) := by
  rcases hfirst with rfl | ⟨error, rfl⟩
  · exact hsecond
  · exact .inr ⟨error, rfl⟩

namespace Workspace

variable [Storage σ κ]

/-- A workspace holds the content of a diagram, together with a history. -/
def Holds (workspace : Workspace σ κ) (diagram : Diagram κ) (history : History (Step κ)) : Prop :=
  (∃ time, workspace.session.diagram? = some (diagram.touched time)) ∧
    workspace.session.history = history

omit [Storage σ κ] in
theorem holds_touched_iff {workspace : Workspace σ κ} {diagram : Diagram κ} {time : Timestamp}
    {history : History (Step κ)} :
    workspace.Holds (diagram.touched time) history ↔ workspace.Holds diagram history := Iff.rfl

theorem writeAll_session (workspace : Workspace σ κ) (writes : List (Write κ)) :
    (workspace.writeAll writes).2.session = workspace.session := rfl

/-- Writing succeeds or the storage fails. -/
theorem writeAll_result (workspace : Workspace σ κ) (writes : List (Write κ)) :
    (workspace.writeAll writes).1 = .ok () ∨
      ∃ error, (workspace.writeAll writes).1 = .error (.storage error) := by
  simp only [writeAll]
  cases (Storage.writeAll workspace.storage writes).1 with
  | error error => exact .inr ⟨error, rfl⟩
  | ok _ => exact .inl rfl

theorem perform_of_unloaded {workspace : Workspace σ κ} (mutation : Mutation κ) (record : Bool)
    (hloaded : workspace.session.diagram? = none) :
    workspace.perform mutation record = (.error .noDiagramLoaded, workspace) := by
  simp only [perform, Session.mutate, hloaded]
  rfl

theorem perform_of_change {workspace : Workspace σ κ} {diagram : Diagram κ}
    {mutation : Mutation κ} {change : Change κ} (record : Bool)
    (hloaded : workspace.session.diagram? = some diagram)
    (hchange : mutation.change diagram = .ok change) :
    workspace.perform mutation record =
      (workspace.withSession (workspace.session.commit record diagram change).1).writeAll
        (workspace.session.commit record diagram change).2 := by
  simp only [perform, Session.mutate, hloaded, hchange]

theorem perform_of_refusal {workspace : Workspace σ κ} {diagram : Diagram κ}
    {mutation : Mutation κ} {refusal : Refusal κ} (record : Bool)
    (hloaded : workspace.session.diagram? = some diagram)
    (hchange : mutation.change diagram = .error refusal) :
    workspace.perform mutation record = (.error refusal.error, workspace) := by
  rw [perform, Session.mutate_of_refusal record hloaded hchange]
  rfl

/-- A mutation that is carried out changes memory whatever becomes of its writes. -/
theorem perform_session {workspace : Workspace σ κ} {diagram : Diagram κ}
    {mutation : Mutation κ} {change : Change κ} (record : Bool)
    (hloaded : workspace.session.diagram? = some diagram)
    (hchange : mutation.change diagram = .ok change) :
    (workspace.perform mutation record).2.session =
      (workspace.session.commit record diagram change).1 := by
  rw [perform_of_change record hloaded hchange]
  rfl

theorem perform_result {workspace : Workspace σ κ} {diagram : Diagram κ}
    {mutation : Mutation κ} {change : Change κ} (record : Bool)
    (hloaded : workspace.session.diagram? = some diagram)
    (hchange : mutation.change diagram = .ok change) :
    (workspace.perform mutation record).1 = .ok () ∨
      ∃ error, (workspace.perform mutation record).1 = .error (.storage error) := by
  rw [perform_of_change record hloaded hchange]
  exact writeAll_result _ _

/-- Where a mutation leads, there it takes a workspace, recording nothing. -/
theorem Holds.perform {workspace : Workspace σ κ} {before after : Diagram κ}
    {history : History (Step κ)} {mutation : Mutation κ} (h : workspace.Holds before history)
    (hleads : mutation.Leads before after) :
    (workspace.perform mutation false).2.Holds after history ∧
      ((workspace.perform mutation false).1 = .ok () ∨
        ∃ error, (workspace.perform mutation false).1 = .error (.storage error)) := by
  obtain ⟨⟨time, hloaded⟩, hhistory⟩ := h
  obtain ⟨change, hchange, hafter⟩ := hleads.touched time
  refine ⟨⟨⟨(workspace.session.supply.get 0).time, ?_⟩, ?_⟩,
    perform_result false hloaded hchange⟩
  · rw [perform_session false hloaded hchange]
    change some (change.diagram.touched _) = _
    rw [hafter, Diagram.touched_touched]
  · rw [perform_session false hloaded hchange]
    exact hhistory

/-! ## Undoing and redoing the steps of a trail -/

theorem performUntilError_leads {workspace : Workspace σ κ} {before after : Diagram κ}
    {history : History (Step κ)} {mutations : List (Mutation κ)}
    (h : workspace.Holds before history) (hleads : Mutation.LeadsAll mutations before after) :
    ((workspace.performUntilError mutations).1 = .ok () ∧
        (workspace.performUntilError mutations).2.Holds after history) ∨
      ∃ error, (workspace.performUntilError mutations).1 = .error (.storage error) := by
  induction mutations generalizing workspace before with
  | nil =>
      obtain rfl : before = after := hleads
      exact .inl ⟨rfl, h⟩
  | cons mutation rest ih =>
      obtain ⟨between, hfirst, hrest⟩ := hleads
      obtain ⟨hholds, hresult⟩ := h.perform hfirst
      rw [performUntilError]
      generalize workspace.perform mutation false = answer at hholds hresult
      obtain ⟨result, next⟩ := answer
      rcases hresult with rfl | ⟨error, rfl⟩
      · exact ih hholds hrest
      · exact .inr ⟨error, rfl⟩

omit [Storage σ κ] in
theorem runAll_append (workspace : Workspace σ κ)
    (first second : List (Workspace σ κ → Answer σ κ Unit)) :
    workspace.runAll (first ++ second) =
      (firstError (workspace.runAll first).1 ((workspace.runAll first).2.runAll second).1,
        ((workspace.runAll first).2.runAll second).2) := by
  induction first generalizing workspace with
  | nil => rfl
  | cons operation rest ih =>
      simp only [List.cons_append, runAll, ih]
      cases (operation workspace).1 <;> rfl

omit [Storage σ κ] in
theorem runAll_singleton (workspace : Workspace σ κ)
    (operation : Workspace σ κ → Answer σ κ Unit) :
    workspace.runAll [operation] = operation workspace := by
  simp only [runAll]
  obtain ⟨result, next⟩ := operation workspace
  cases result <;> rfl

/-- The way back along a trail, unless a write fails. -/
theorem undo_trail {workspace : Workspace σ κ} {before after : Diagram κ}
    {history : History (Step κ)} {steps : List (Step κ)} (htrail : Step.Trail steps before after)
    (h : workspace.Holds after history) :
    let answer := workspace.runAll
      (steps.reverse.map fun step workspace => workspace.performUntilError step.undo)
    (answer.1 = .ok () ∧ answer.2.Holds before history) ∨
      ∃ error, answer.1 = .error (.storage error) := by
  induction steps generalizing before with
  | nil =>
      obtain ⟨time, rfl⟩ := htrail
      obtain ⟨⟨other, hloaded⟩, hhistory⟩ := h
      exact .inl ⟨rfl, ⟨other, hloaded⟩, hhistory⟩
  | cons step rest ih =>
      obtain ⟨between, hstep, hrest⟩ := htrail
      simp only [List.reverse_cons, List.map_append, List.map_cons, List.map_nil, runAll_append,
        runAll_singleton]
      rcases ih hrest with ⟨hok, hholds⟩ | ⟨error, herror⟩
      · rw [hok]
        have hback := performUntilError_leads (holds_touched_iff.mpr hholds)
          (hstep.back before.updatedAt)
        rwa [holds_touched_iff] at hback
      · rw [herror]
        exact .inr ⟨error, rfl⟩

/-- The way forth along a trail. -/
theorem redo_trail {workspace : Workspace σ κ} {before after : Diagram κ}
    {history : History (Step κ)} {steps : List (Step κ)} (htrail : Step.Trail steps before after)
    (h : workspace.Holds before history) :
    let answer := workspace.runAll
      (steps.map fun step workspace => workspace.perform step.redo false)
    answer.2.Holds after history ∧
      (answer.1 = .ok () ∨ ∃ error, answer.1 = .error (.storage error)) := by
  induction steps generalizing workspace before with
  | nil =>
      obtain ⟨time, rfl⟩ := htrail
      obtain ⟨⟨other, hloaded⟩, hhistory⟩ := h
      exact ⟨⟨⟨other, hloaded⟩, hhistory⟩, .inl rfl⟩
  | cons step rest ih =>
      obtain ⟨between, hstep, hrest⟩ := htrail
      obtain ⟨hholds, hresult⟩ := h.perform (hstep.forth before.updatedAt)
      obtain ⟨hafter, hothers⟩ := ih hrest (holds_touched_iff.mp hholds)
      simp only [List.map_cons, runAll]
      exact ⟨hafter, firstError_result hresult hothers⟩

end Workspace

end SchemaDiagram
