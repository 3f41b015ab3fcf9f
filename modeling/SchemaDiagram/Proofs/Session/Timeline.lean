import SchemaDiagram.Proofs.Session.Edit

/-!
# The timeline of a session

The diagrams before and after the commands of a history form a timeline.  An edit that changes the
history enters one diagram behind the present one and forgets what was ahead; undo and redo move the
position by one.  The invariant keeps the commands in one list, those that can be undone before
those that can be redone: undo and redo leave that list as it is, and the command between two
neighbouring diagrams of the timeline connects them.
-/

namespace SchemaDiagram

variable {σ κ : Type}

/-! ## Timelines -/

/-- Diagrams in the order in which they were entered, and the position of the present one. -/
structure Timeline (κ : Type) where
  states : List (Diagram κ)
  position : Nat

namespace Timeline

/-- The diagram at the present position. -/
def present? (timeline : Timeline κ) : Option (Diagram κ) :=
  timeline.states[timeline.position]?

/-- One position down, unless it is the first one. -/
def back (timeline : Timeline κ) : Timeline κ :=
  { timeline with position := timeline.position - 1 }

/-- One position up, unless it is the last one. -/
def forth (timeline : Timeline κ) : Timeline κ :=
  { timeline with position := min (timeline.position + 1) (timeline.states.length - 1) }

/-- Enter a diagram behind the present one; the diagrams ahead are dropped. -/
def enter (timeline : Timeline κ) (diagram : Diagram κ) : Timeline κ where
  states := timeline.states.take (timeline.position + 1) ++ [diagram]
  position := timeline.position + 1

end Timeline

/-- The commands of a history in the order in which they were recorded, undone ones last. -/
def History.commands {α : Type} (history : History α) : List (Command α) :=
  history.undoStack ++ history.redoStack.reverse

namespace Workspace

/-- The workspace shows the present diagram of a timeline, and its history leads along the
timeline. -/
structure OnTimeline (workspace : Workspace σ κ) (timeline : Timeline κ) : Prop where
  diagram : workspace.session.diagram? = timeline.present?
  idle : workspace.session.history.group = none
  position : workspace.session.history.undoStack.length = timeline.position
  length : timeline.states.length = workspace.session.history.commands.length + 1
  connects : ∀ i command before after, workspace.session.history.commands[i]? = some command →
    timeline.states[i]? = some before → timeline.states[i + 1]? = some after →
    command.Connects before after

theorem OnTimeline.of_load {workspace : Workspace σ κ} {diagram : Diagram κ}
    (hloaded : workspace.session.diagram? = some diagram)
    (hhistory : workspace.session.history = History.empty) :
    workspace.OnTimeline ⟨[diagram], 0⟩ := by
  constructor
  · exact hloaded
  · rw [hhistory]
    rfl
  · rw [hhistory]
    rfl
  · rw [hhistory]
    rfl
  · intro i command before after hcommand
    simp [hhistory, History.commands, History.empty] at hcommand

/-- The number of commands that can be redone. -/
theorem OnTimeline.redoStack_length {workspace : Workspace σ κ} {timeline : Timeline κ}
    (h : workspace.OnTimeline timeline) :
    timeline.position + workspace.session.history.redoStack.length + 1 =
      timeline.states.length := by
  have hlength := h.length
  simp only [History.commands, List.length_append, List.length_reverse, h.position] at hlength
  exact hlength.symm

/-! ## Edits -/

/-- An edit that leaves the diagram and the history alone stays where it is. -/
theorem OnTimeline.stay {before after : Workspace σ κ} {timeline : Timeline κ}
    (h : before.OnTimeline timeline) (hhistory : after.session.history = before.session.history)
    (hdiagram : after.session.diagram? = before.session.diagram?) :
    after.OnTimeline timeline := by
  obtain ⟨hpresent, hidle, hposition, hlength, hconnects⟩ := h
  constructor
  · rw [hdiagram, hpresent]
  · rw [hhistory, hidle]
  · rw [hhistory, hposition]
  · rw [hhistory, hlength]
  · rwa [hhistory]

/-- A command that is recorded enters the diagram after it. -/
theorem OnTimeline.enter {before after : Workspace σ κ} {timeline : Timeline κ}
    {start present : Diagram κ} {command : Command (Step κ)} (h : before.OnTimeline timeline)
    (hstart : before.session.diagram? = some start)
    (hpresent : after.session.diagram? = some present)
    (hhistory : after.session.history = before.session.history.push command)
    (hconnects : command.Connects start present) : after.OnTimeline (timeline.enter present) := by
  have hredo := h.redoStack_length
  have hkept : (timeline.states.take (timeline.position + 1)).length = timeline.position + 1 := by
    rw [List.length_take]
    omega
  have hcommands : after.session.history.commands =
      before.session.history.undoStack ++ [command] := by
    rw [hhistory]
    simp [History.commands, History.push]
  constructor
  · rw [hpresent]
    simp [Timeline.present?, Timeline.enter, hkept]
  · rw [hhistory]
    exact h.idle
  · rw [hhistory]
    simp [History.push, Timeline.enter, h.position]
  · rw [hcommands]
    simp only [Timeline.enter, List.length_append, hkept, h.position, List.length_singleton]
  · intro i other earlier later hother hearlier hlater
    rw [hcommands] at hother
    simp only [Timeline.enter] at hearlier hlater
    rcases Nat.lt_trichotomy i timeline.position with hlt | heq | hgt
    · -- Between diagrams that were there before, the command is an old one.
      rw [List.getElem?_append_left (by omega), List.getElem?_take_of_lt (by omega)] at hearlier
      rw [List.getElem?_append_left (by omega), List.getElem?_take_of_lt (by omega)] at hlater
      rw [List.getElem?_append_left (by rw [h.position]; exact hlt)] at hother
      refine h.connects i other earlier later ?_ hearlier hlater
      rw [History.commands, List.getElem?_append_left (by rw [h.position]; exact hlt), hother]
    · subst heq
      rw [List.getElem?_append_right (Nat.le_of_eq h.position)] at hother
      rw [List.getElem?_append_left (by omega), List.getElem?_take_of_lt (by omega)] at hearlier
      rw [List.getElem?_append_right (by omega)] at hlater
      simp only [h.position, Nat.sub_self, List.getElem?_cons_zero, hkept] at hother hlater
      obtain rfl := Option.some.inj hother
      obtain rfl := Option.some.inj hlater
      have hsame : some earlier = some start :=
        hearlier.symm.trans (h.diagram.symm.trans hstart)
      obtain rfl := Option.some.inj hsame
      exact hconnects
    · have hnone : (before.session.history.undoStack ++ [command])[i]? = none := by
        rw [List.getElem?_eq_none_iff, List.length_append, h.position]
        exact hgt
      rw [hnone] at hother
      exact absurd hother (by simp)

/-! ## Undo and redo -/

theorem popLast?_concat {α : Type} (rest : List α) (last : α) :
    History.popLast? (rest ++ [last]) = some (last, rest) := by
  simp [History.popLast?]

theorem popLast?_nil {α : Type} : History.popLast? ([] : List α) = none := rfl

/-- Undoing at the first position does nothing. -/
theorem OnTimeline.undo_first {workspace : Workspace σ κ} {timeline : Timeline κ}
    [Storage σ κ] (h : workspace.OnTimeline timeline) (hfirst : timeline.position = 0) :
    workspace.undo = (.ok false, workspace) := by
  have hempty : workspace.session.history.undoStack = [] :=
    List.eq_nil_of_length_eq_zero (h.position.trans hfirst)
  simp only [undo, History.popUndo?, hempty, popLast?_nil, Option.map_none]

/-- Redoing at the last position does nothing. -/
theorem OnTimeline.redo_last {workspace : Workspace σ κ} {timeline : Timeline κ}
    [Storage σ κ] (h : workspace.OnTimeline timeline)
    (hlast : timeline.position + 1 = timeline.states.length) :
    workspace.redo = (.ok false, workspace) := by
  have hempty : workspace.session.history.redoStack = [] := by
    have hredo := h.redoStack_length
    exact List.eq_nil_of_length_eq_zero (by omega)
  simp only [redo, History.popRedo?, hempty, popLast?_nil, Option.map_none]

/-- Setting back the time of the last update makes a content the whole diagram again. -/
theorem Holds.restoreUpdatedAt [Storage σ κ] {workspace : Workspace σ κ} {diagram : Diagram κ}
    {history : History (Step κ)} (h : workspace.Holds diagram history) :
    (workspace.restoreUpdatedAt diagram.updatedAt).2.session.diagram? = some diagram ∧
      (workspace.restoreUpdatedAt diagram.updatedAt).2.session.history = history ∧
      ((workspace.restoreUpdatedAt diagram.updatedAt).1 = .ok () ∨
        ∃ error, (workspace.restoreUpdatedAt diagram.updatedAt).1 = .error (.storage error)) := by
  obtain ⟨⟨time, hloaded⟩, hhistory⟩ := h
  simp only [Workspace.restoreUpdatedAt, hloaded, writeAll_session]
  exact ⟨rfl, hhistory, writeAll_result _ _⟩

/-- A command of the history stands between two neighbouring diagrams of the timeline. -/
theorem OnTimeline.neighbours {workspace : Workspace σ κ} {timeline : Timeline κ}
    (h : workspace.OnTimeline timeline) (i : Nat) (command : Command (Step κ))
    (hcommand : workspace.session.history.commands[i]? = some command) :
    ∃ before after, timeline.states[i]? = some before ∧ timeline.states[i + 1]? = some after ∧
      command.Connects before after := by
  obtain ⟨hi, -⟩ := List.getElem?_eq_some_iff.mp hcommand
  have hlength := h.length
  have hbefore : timeline.states[i]? = some timeline.states[i] := List.getElem?_eq_getElem _
  have hafter : timeline.states[i + 1]? = some timeline.states[i + 1] :=
    List.getElem?_eq_getElem _
  exact ⟨_, _, hbefore, hafter, h.connects i command _ _ hcommand hbefore hafter⟩

/-- A history with the same commands leads along the same timeline. -/
theorem OnTimeline.move {before after : Workspace σ κ} {timeline : Timeline κ} {position : Nat}
    (h : before.OnTimeline timeline)
    (hdiagram : after.session.diagram? = timeline.states[position]?)
    (hidle : after.session.history.group = none)
    (hposition : after.session.history.undoStack.length = position)
    (hcommands : after.session.history.commands = before.session.history.commands) :
    after.OnTimeline { timeline with position := position } := by
  refine ⟨hdiagram, hidle, hposition, ?_, ?_⟩
  · rw [hcommands]
    exact h.length
  · rw [hcommands]
    exact h.connects

/-- The command to undo next leads from the diagram in front of the present one to the present
one. -/
theorem OnTimeline.last_undo {workspace : Workspace σ κ} {timeline : Timeline κ}
    (h : workspace.OnTimeline timeline) (hposition : 0 < timeline.position) :
    ∃ rest command before after, workspace.session.history.undoStack = rest ++ [command] ∧
      rest.length = timeline.position - 1 ∧
      workspace.session.history.popUndo? =
        some (command, { workspace.session.history with undoStack := rest }) ∧
      timeline.states[timeline.position - 1]? = some before ∧
      workspace.session.diagram? = some after ∧ command.Connects before after := by
  obtain hempty | ⟨rest, command, hstack⟩ :=
    List.eq_nil_or_concat workspace.session.history.undoStack
  · have hzero := h.position
    rw [hempty, List.length_nil] at hzero
    omega
  rw [List.concat_eq_append] at hstack
  have hrest : rest.length = timeline.position - 1 := by
    rw [← h.position, hstack, List.length_append, List.length_singleton, Nat.add_sub_cancel]
  have hpopped : workspace.session.history.popUndo? =
      some (command, { workspace.session.history with undoStack := rest }) := by
    simp only [History.popUndo?, hstack, popLast?_concat, Option.map_some]
  obtain ⟨before, after, hbefore, hafter, hconnects⟩ :=
    h.neighbours rest.length command (by simp [History.commands, hstack])
  have hpresent : workspace.session.diagram? = some after := by
    rw [h.diagram, Timeline.present?, ← hafter, hrest, Nat.sub_add_cancel hposition]
  rw [hrest] at hbefore
  exact ⟨rest, command, before, after, hstack, hrest, hpopped, hbefore, hpresent, hconnects⟩

/-- The command to redo next leads from the present diagram to the one behind it. -/
theorem OnTimeline.last_redo {workspace : Workspace σ κ} {timeline : Timeline κ}
    (h : workspace.OnTimeline timeline)
    (hposition : timeline.position + 1 < timeline.states.length) :
    ∃ rest command before after, workspace.session.history.redoStack = rest ++ [command] ∧
      workspace.session.history.popRedo? =
        some (command, { workspace.session.history with redoStack := rest }) ∧
      timeline.states[timeline.position + 1]? = some after ∧
      workspace.session.diagram? = some before ∧ command.Connects before after := by
  obtain hempty | ⟨rest, command, hstack⟩ :=
    List.eq_nil_or_concat workspace.session.history.redoStack
  · have hzero := h.redoStack_length
    rw [hempty, List.length_nil] at hzero
    omega
  rw [List.concat_eq_append] at hstack
  have hpopped : workspace.session.history.popRedo? =
      some (command, { workspace.session.history with redoStack := rest }) := by
    simp only [History.popRedo?, hstack, popLast?_concat, Option.map_some]
  obtain ⟨before, after, hbefore, hafter, hconnects⟩ :=
    h.neighbours timeline.position command
      (by simp [History.commands, hstack, ← h.position])
  have hpresent : workspace.session.diagram? = some before := by
    rw [h.diagram, Timeline.present?, hbefore]
  exact ⟨rest, command, before, after, hstack, hpopped, hafter, hpresent, hconnects⟩

variable [Storage σ κ]

/-- Undoing moves one position down, unless a write fails. -/
theorem OnTimeline.undo_back {workspace : Workspace σ κ} {timeline : Timeline κ}
    (h : workspace.OnTimeline timeline) (hposition : 0 < timeline.position) :
    (workspace.undo.1 = .ok true ∧ workspace.undo.2.OnTimeline timeline.back) ∨
      ∃ error, workspace.undo.1 = .error (.storage error) := by
  obtain ⟨rest, command, before, after, hstack, hrest, hpopped, hbefore, hpresent, hconnects⟩ :=
    h.last_undo hposition
  have hholds : (workspace.mapHistory fun _ =>
      { workspace.session.history with undoStack := rest }).Holds after
        { workspace.session.history with undoStack := rest } :=
    ⟨⟨after.updatedAt, hpresent⟩, rfl⟩
  have hback := undo_trail hconnects.trail hholds
  simp only [undo, hpopped, undoSteps]
  rcases hback with ⟨hok, hholds⟩ | ⟨error, herror⟩
  · obtain ⟨hdiagram, hhistory, hrestored⟩ := hholds.restoreUpdatedAt
    rw [hok, hconnects.undoUpdatedAt]
    rcases hrestored with hrestored | ⟨error, hrestored⟩
    · rw [hrestored]
      refine .inl ⟨rfl, h.move ?_ ?_ ?_ ?_⟩
      · exact hdiagram.trans hbefore.symm
      · change (History.pushRedo (Workspace.session _).history _).group = none
        rw [hhistory]
        exact h.idle
      · change (History.pushRedo (Workspace.session _).history _).undoStack.length = _
        rw [hhistory]
        exact hrest
      · change (History.pushRedo (Workspace.session _).history _).commands = _
        rw [hhistory]
        simp [History.commands, History.pushRedo, hstack]
    · rw [hrestored]
      exact .inr ⟨error, rfl⟩
  · rw [herror]
    exact .inr ⟨error, rfl⟩

/-- Redoing moves one position up; only writes can fail. -/
theorem OnTimeline.redo_forth {workspace : Workspace σ κ} {timeline : Timeline κ}
    (h : workspace.OnTimeline timeline)
    (hposition : timeline.position + 1 < timeline.states.length) :
    workspace.redo.2.OnTimeline timeline.forth ∧
      (workspace.redo.1 = .ok true ∨ ∃ error, workspace.redo.1 = .error (.storage error)) := by
  obtain ⟨rest, command, before, after, hstack, hpopped, hafter, hpresent, hconnects⟩ :=
    h.last_redo hposition
  have hholds : (workspace.mapHistory fun _ =>
      { workspace.session.history with redoStack := rest }).Holds before
        { workspace.session.history with redoStack := rest } :=
    ⟨⟨before.updatedAt, hpresent⟩, rfl⟩
  have hforth := redo_trail hconnects.trail hholds
  simp only [redo, hpopped, redoSteps]
  obtain ⟨hholds, hreplayed⟩ := hforth
  obtain ⟨hdiagram, hhistory, hrestored⟩ := hholds.restoreUpdatedAt
  rw [hconnects.redoUpdatedAt]
  constructor
  · have hnext : timeline.forth = { timeline with position := timeline.position + 1 } := by
      rw [Timeline.forth, Nat.min_eq_left (by omega)]
    rw [hnext]
    refine h.move ?_ ?_ ?_ ?_
    · exact hdiagram.trans hafter.symm
    · change (History.pushUndo (Workspace.session _).history _).group = none
      rw [hhistory]
      exact h.idle
    · change (History.pushUndo (Workspace.session _).history _).undoStack.length = _
      rw [hhistory]
      simp [History.pushUndo, h.position]
    · change (History.pushUndo (Workspace.session _).history _).commands = _
      rw [hhistory]
      simp [History.commands, History.pushUndo, hstack]
  · rcases firstError_result hreplayed hrestored with hdone | ⟨error, hfailed⟩
    · rw [hdone]
      exact .inl rfl
    · rw [hfailed]
      exact .inr ⟨error, rfl⟩

/-- Undo leads one position down, or stays at the first one, unless a write fails. -/
theorem OnTimeline.undo {workspace : Workspace σ κ} {timeline : Timeline κ}
    (h : workspace.OnTimeline timeline) (hserved : Served workspace.undo.1) :
    workspace.undo.2.OnTimeline timeline.back := by
  rcases Nat.eq_zero_or_pos timeline.position with hfirst | hlater
  · rw [h.undo_first hfirst]
    have hstay : timeline.back = timeline := by
      rw [Timeline.back, hfirst, Nat.zero_sub, ← hfirst]
    rwa [hstay]
  · rcases h.undo_back hlater with ⟨-, hback⟩ | ⟨error, herror⟩
    · exact hback
    · exact absurd herror (hserved error)

/-- Redo leads one position up, or stays at the last one. -/
theorem OnTimeline.redo {workspace : Workspace σ κ} {timeline : Timeline κ}
    (h : workspace.OnTimeline timeline) : workspace.redo.2.OnTimeline timeline.forth := by
  have hbound := h.redoStack_length
  obtain hlast | hearlier : timeline.position + 1 = timeline.states.length ∨
      timeline.position + 1 < timeline.states.length := by omega
  · rw [h.redo_last hlast]
    have hstay : timeline.forth = timeline := by
      rw [Timeline.forth, Nat.min_eq_right (by omega), ← hlast, Nat.add_sub_cancel]
    rwa [hstay]
  · exact (h.redo_forth hearlier).1

/-! ## Properties of all diagrams of a timeline -/

/-- The workspace stands on a timeline all of whose diagrams have a property. -/
def Along (property : Diagram κ → Prop) (workspace : Workspace σ κ) : Prop :=
  ∃ timeline, workspace.OnTimeline timeline ∧ ∀ state ∈ timeline.states, property state

section Along

variable {property : Diagram κ → Prop} {workspace : Workspace σ κ}

omit [Storage σ κ] in
theorem Along.of_load {diagram : Diagram κ} (hloaded : workspace.session.diagram? = some diagram)
    (hhistory : workspace.session.history = History.empty) (hdiagram : property diagram) :
    Along property workspace := by
  refine ⟨_, .of_load hloaded hhistory, ?_⟩
  intro state hstate
  obtain rfl := List.mem_singleton.mp hstate
  exact hdiagram

omit [Storage σ κ] in
theorem Along.present (h : Along property workspace) :
    ∃ diagram, workspace.session.diagram? = some diagram ∧ property diagram := by
  obtain ⟨timeline, htimeline, hstates⟩ := h
  have hbound := htimeline.redoStack_length
  have hlt : timeline.position < timeline.states.length := by omega
  have hpresent : timeline.present? = some timeline.states[timeline.position] :=
    List.getElem?_eq_getElem hlt
  exact ⟨_, htimeline.diagram.trans hpresent, hstates _ (List.getElem_mem hlt)⟩

omit [Storage σ κ] in
theorem Along.idle (h : Along property workspace) : workspace.session.history.group = none := by
  obtain ⟨timeline, htimeline, -⟩ := h
  exact htimeline.idle

omit [Storage σ κ] in
/-- What is recorded as one command, or does nothing, and leaves a diagram with the property. -/
theorem Along.records (h : Along property workspace) {next : Workspace σ κ}
    (hrecords : workspace.Records next)
    (hafter : ∀ after, next.session.diagram? = some after → property after) :
    Along property next := by
  obtain ⟨timeline, htimeline, hstates⟩ := h
  rcases hrecords with ⟨hhistory, hdiagram⟩ | ⟨start, present, command, hstart, hpresent, hpush,
    hconnects⟩
  · exact ⟨timeline, htimeline.stay hhistory hdiagram, hstates⟩
  · refine ⟨_, htimeline.enter hstart hpresent hpush hconnects, ?_⟩
    intro state hstate
    rcases List.mem_append.mp hstate with hearlier | hlast
    · exact hstates state (List.mem_of_mem_take hearlier)
    · obtain rfl := List.mem_singleton.mp hlast
      exact hafter _ hpresent

theorem Along.undo (h : Along property workspace) (hserved : Served workspace.undo.1) :
    Along property workspace.undo.2 := by
  obtain ⟨timeline, htimeline, hstates⟩ := h
  exact ⟨timeline.back, htimeline.undo hserved, hstates⟩

theorem Along.redo (h : Along property workspace) : Along property workspace.redo.2 := by
  obtain ⟨timeline, htimeline, hstates⟩ := h
  exact ⟨timeline.forth, htimeline.redo, hstates⟩

end Along

end Workspace

end SchemaDiagram
