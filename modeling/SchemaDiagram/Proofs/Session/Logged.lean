import SchemaDiagram.Proofs.Session.Headed

/-!
# What a log holds

Calls to a log record actions, some of them within groups.  Once every group is closed, the commands
that were added are the parts in which the calls recorded: no action is lost, none is held twice,
and no group leaves a command unless something was recorded in it.  Undo and redo, failed or not,
only move commands from one end of the log to the other.
-/

namespace SchemaDiagram

namespace History

variable {σ : Type}

/-! ## Calls -/

/-- A call to a log.  An action is recorded together with the times around it. -/
inductive Call (σ : Type) where
  | record (command : Command σ)
  | beginGroup
  | endGroup

namespace Call

def run (history : History σ) : Call σ → History σ
  | record command =>
    history.record command.action command.undoUpdatedAt command.redoUpdatedAt
  | beginGroup => history.beginGroup
  | endGroup => history.endGroup

def recorded? : Call σ → Option (Command σ)
  | record command => some command
  | _ => none

/-- Whether a call leaves an open group open. -/
def staysOpen : Call σ → Bool
  | endGroup => false
  | _ => true

end Call

/-- What calls make of a log, one after another. -/
def runCalls (history : History σ) (calls : List (Call σ)) : History σ :=
  calls.foldl Call.run history

/-- What calls record, in order. -/
def recorded (calls : List (Call σ)) : List (Command σ) :=
  calls.filterMap Call.recorded?

/-- What calls record to a log without an open group, in parts: all that comes up to the end of a
group belongs together.  A group cannot be opened twice, and one that is not open cannot end. -/
def parts : List (Call σ) → List (List (Command σ))
  | [] => []
  | .record command :: rest => [command] :: parts rest
  | .endGroup :: rest => parts rest
  | .beginGroup :: rest =>
    [recorded (rest.takeWhile Call.staysOpen)].filter (fun part => !part.isEmpty) ++
      parts (rest.dropWhile Call.staysOpen)
termination_by calls => calls.length
decreasing_by
  · exact Nat.lt_succ_self _
  · exact Nat.lt_succ_self _
  · exact Nat.lt_succ_of_le (List.dropWhile_suffix _).length_le

theorem recorded_append (first second : List (Call σ)) :
    recorded (first ++ second) = recorded first ++ recorded second :=
  List.filterMap_append

/-- The parts hold what is recorded, all of it once and in order. -/
theorem flatten_parts (calls : List (Call σ)) : (parts calls).flatten = recorded calls := by
  induction calls using parts.induct with
  | case1 => rw [parts]; rfl
  | case2 command rest ih => rw [parts, List.flatten_cons, ih]; rfl
  | case3 rest ih => rw [parts, ih]; rfl
  | case4 rest ih =>
      have hpart : ([recorded (rest.takeWhile Call.staysOpen)].filter
          fun part => !part.isEmpty).flatten = recorded (rest.takeWhile Call.staysOpen) := by
        cases recorded (rest.takeWhile Call.staysOpen) <;> simp
      calc (parts (.beginGroup :: rest)).flatten
          = recorded (rest.takeWhile Call.staysOpen) ++
              recorded (rest.dropWhile Call.staysOpen) := by
            rw [parts, List.flatten_append, hpart, ih]
        _ = recorded rest := by rw [← recorded_append, List.takeWhile_append_dropWhile]
        _ = recorded (.beginGroup :: rest) := rfl

end History

/-! ## Groups -/

/-- A command stands for a part of what was recorded: it has the steps of all of it in order, and
the times in front of the first action and behind the last one.  An action that was recorded alone
is kept as it is. -/
structure Command.Covers {σ : Type} (command : Command σ) (part : List (Command σ)) : Prop where
  steps : command.action.steps = part.flatMap fun recorded => recorded.action.steps
  undoUpdatedAt : part.head?.map Command.undoUpdatedAt = some command.undoUpdatedAt
  redoUpdatedAt : part.getLast?.map Command.redoUpdatedAt = some command.redoUpdatedAt
  alone : ∀ recorded, part = [recorded] → command = recorded

theorem Command.covers_singleton {σ : Type} (command : Command σ) : command.Covers [command] :=
  ⟨by simp, rfl, rfl, fun _ hsame => (List.singleton_inj.mp hsame)⟩

namespace Group

variable {σ : Type} {group : Group σ} {part : List (Command σ)}

/-- An open group has collected a part of what was recorded. -/
structure Collects (group : Group σ) (part : List (Command σ)) : Prop where
  actions : group.actions = part.map Command.action
  bounds : group.bounds = part.head?.bind fun first =>
    part.getLast?.map fun last => (first.undoUpdatedAt, last.redoUpdatedAt)

theorem collects_nil : (⟨[], none⟩ : Group σ).Collects [] :=
  ⟨rfl, rfl⟩

theorem Collects.add (h : group.Collects part) (command : Command σ) :
    (group.add command.action command.undoUpdatedAt command.redoUpdatedAt).Collects
      (part ++ [command]) := by
  constructor
  · simp [Group.add, h.actions]
  · rw [Group.add, h.bounds]
    cases part with
    | nil => rfl
    | cons first rest => simp [List.getLast?_cons]

theorem stepsOfAll_map_action (part : List (Command σ)) :
    Action.stepsOfAll (part.map Command.action) =
      part.flatMap fun recorded => recorded.action.steps := by
  induction part with
  | nil => rfl
  | cons recorded rest ih => simp [Action.stepsOfAll, ih]

theorem Collects.command?_nil (h : group.Collects []) : group.command? = none := by
  rw [command?, h.bounds]
  rfl

/-- A group that collected something is closed with one command for all of it. -/
theorem Collects.exists_command (h : group.Collects part) (hpart : part ≠ []) :
    ∃ command, group.command? = some command ∧ command.Covers part := by
  match part, h, hpart with
  | [recorded], h, _ =>
      refine ⟨recorded, ?_, recorded.covers_singleton⟩
      rw [command?, h.bounds, h.actions]
      rfl
  | first :: second :: rest, h, _ =>
      have hlast : (first :: second :: rest).getLast? = some ((second :: rest).getLast (by simp)) :=
        rfl
      refine ⟨⟨.batch group.actions, first.undoUpdatedAt,
        ((second :: rest).getLast (by simp)).redoUpdatedAt⟩, ?_, ?_, rfl, ?_, ?_⟩
      · rw [command?, h.bounds, h.actions, hlast]
        rfl
      · rw [Action.steps, h.actions, stepsOfAll_map_action]
      · rw [hlast, Option.map_some]
      · exact fun _ hsame => absurd hsame (by simp)

end Group

namespace History

variable {σ : Type} {history : History σ} {part : List (Command σ)}

theorem runCalls_cons (call : Call σ) (rest : List (Call σ)) :
    history.runCalls (call :: rest) = (call.run history).runCalls rest :=
  rfl

theorem runCalls_append (first second : List (Call σ)) :
    history.runCalls (first ++ second) = (history.runCalls first).runCalls second :=
  List.foldl_append

/-- While a group is open, it collects what is recorded, and nothing else happens. -/
theorem runCalls_of_open {group : Group σ} (hgroup : history.group = some group)
    (hcollects : group.Collects part) {calls : List (Call σ)}
    (hcalls : ∀ call ∈ calls, call.staysOpen = true) :
    ∃ later : Group σ, history.runCalls calls = { history with group := some later } ∧
      later.Collects (part ++ recorded calls) := by
  induction calls generalizing history group part with
  | nil =>
      refine ⟨group, ?_, by simpa [recorded] using hcollects⟩
      rw [← hgroup]
      rfl
  | cons call rest ih =>
      have hrest := fun other hother => hcalls other (List.mem_cons_of_mem call hother)
      cases call with
      | record command =>
          have hstep : (Call.record command).run history = { history with
              group := some (group.add command.action command.undoUpdatedAt
                command.redoUpdatedAt) } := by
            simp only [Call.run, History.record, hgroup]
          have hopen : ((Call.record command).run history).group =
              some (group.add command.action command.undoUpdatedAt command.redoUpdatedAt) := by
            rw [hstep]
          obtain ⟨later, hrun, hlater⟩ := ih hopen (hcollects.add command) hrest
          refine ⟨later, by rw [runCalls_cons, hrun, hstep], ?_⟩
          simpa [recorded, Call.recorded?] using hlater
      | beginGroup =>
          have hstep : Call.beginGroup.run history = history := by
            simp only [Call.run, History.beginGroup, hgroup]
          obtain ⟨later, hrun, hlater⟩ := ih hgroup hcollects hrest
          exact ⟨later, by rw [runCalls_cons, hstep, hrun], hlater⟩
      | endGroup => exact absurd (hcalls _ List.mem_cons_self) Bool.false_ne_true

/-- A log without an open group to which commands were added.  The first of them makes it forget
what was undone. -/
def withEntries (history : History σ) (entries : List (Command σ)) : History σ where
  undoStack := history.undoStack ++ entries
  redoStack := if entries.isEmpty then history.redoStack else []
  group := none

theorem withEntries_nil (hidle : history.group = none) : history.withEntries [] = history := by
  cases history
  cases hidle
  simp [withEntries]

theorem push_eq_withEntries (hidle : history.group = none) (command : Command σ) :
    history.push command = history.withEntries [command] := by
  cases history
  cases hidle
  rfl

theorem withEntries_append (first second : List (Command σ)) :
    (history.withEntries first).withEntries second = history.withEntries (first ++ second) := by
  cases first with
  | nil => simp [withEntries]
  | cons entry rest => simp [withEntries]

/-- Closing a group adds one command for what was collected, or nothing. -/
theorem endGroup_of_collects {group : Group σ} (hgroup : history.group = some group)
    (hcollects : group.Collects part) :
    ∃ entries, history.endGroup = history.withEntries entries ∧
      List.Forall₂ Command.Covers entries ([part].filter fun part => !part.isEmpty) := by
  cases part with
  | nil =>
      refine ⟨[], ?_, .nil⟩
      simp only [endGroup, hgroup, hcollects.command?_nil, withEntries]
      simp
  | cons first rest =>
      obtain ⟨command, hcommand, hcovers⟩ := hcollects.exists_command (List.cons_ne_nil first rest)
      refine ⟨[command], ?_, .cons hcovers .nil⟩
      simp only [endGroup, hgroup, hcommand, withEntries]
      rfl

/-- A group that is opened collects what is recorded up to the call that ends it. -/
theorem runCalls_beginGroup (hidle : history.group = none) (rest : List (Call σ)) :
    ∃ group : Group σ, group.Collects (recorded (rest.takeWhile Call.staysOpen)) ∧
      history.runCalls (.beginGroup :: rest) =
        runCalls { history with group := some group } (rest.dropWhile Call.staysOpen) := by
  have hopen : Call.beginGroup.run history = { history with group := some ⟨[], none⟩ } := by
    simp only [Call.run, beginGroup, hidle]
  have hgroup : ({ history with group := some ⟨[], none⟩ } : History σ).group =
      some ⟨[], none⟩ := rfl
  obtain ⟨group, hcollected, hcollects⟩ := runCalls_of_open hgroup Group.collects_nil
    fun call (hcall : call ∈ rest.takeWhile Call.staysOpen) => List.mem_takeWhile_imp hcall
  refine ⟨group, hcollects, ?_⟩
  calc history.runCalls (.beginGroup :: rest)
      = runCalls { history with group := some ⟨[], none⟩ } rest := by rw [runCalls_cons, hopen]
    _ = (runCalls { history with group := some ⟨[], none⟩ }
          (rest.takeWhile Call.staysOpen)).runCalls (rest.dropWhile Call.staysOpen) := by
        rw [← runCalls_append, List.takeWhile_append_dropWhile]
    _ = _ := by rw [hcollected]

/-- Calls that leave no group open add a command for every part of what they record. -/
theorem runCalls_of_closed {calls : List (Call σ)} (hidle : history.group = none)
    (hclosed : (history.runCalls calls).group = none) :
    ∃ entries, history.runCalls calls = history.withEntries entries ∧
      List.Forall₂ Command.Covers entries (parts calls) := by
  induction calls using parts.induct generalizing history with
  | case1 =>
      refine ⟨[], (withEntries_nil hidle).symm, ?_⟩
      rw [parts]
      exact .nil
  | case2 command rest ih =>
      have hstep : (Call.record command).run history = history.withEntries [command] := by
        simp only [Call.run, History.record, hidle, push_eq_withEntries hidle]
      rw [runCalls_cons, hstep] at hclosed ⊢
      obtain ⟨entries, hrun, hcovers⟩ := ih rfl hclosed
      refine ⟨command :: entries, by rw [hrun, withEntries_append]; rfl, ?_⟩
      rw [parts]
      exact .cons command.covers_singleton hcovers
  | case3 rest ih =>
      have hstep : Call.endGroup.run history = history := by
        simp only [Call.run, endGroup, hidle]
      rw [runCalls_cons, hstep] at hclosed ⊢
      rw [parts]
      exact ih hidle hclosed
  | case4 rest ih =>
      obtain ⟨group, hcollects, hopened⟩ := runCalls_beginGroup hidle rest
      rw [hopened] at hclosed ⊢
      -- What is left begins with the call that ends the group, which does nothing once more.
      cases hrest : rest.dropWhile Call.staysOpen with
      | nil =>
          rw [hrest] at hclosed
          cases hclosed
      | cons call more =>
          obtain rfl : call = .endGroup := by
            have hends := List.head?_dropWhile_not Call.staysOpen rest
            rw [hrest] at hends
            cases call <;> simp_all [Call.staysOpen]
          have hgroup : ({ history with group := some group } : History σ).group =
              some group := rfl
          obtain ⟨first, hended, hfirst⟩ := endGroup_of_collects hgroup hcollects
          have hagain : runCalls { history with group := some group } (.endGroup :: more) =
              (history.withEntries first).runCalls (.endGroup :: more) := by
            rw [runCalls_cons, runCalls_cons, Call.run, hended]
            rfl
          rw [hrest, hagain] at hclosed
          rw [hrest] at ih
          obtain ⟨entries, hrun, hcovers⟩ := ih rfl hclosed
          refine ⟨first ++ entries, by rw [hagain, hrun, withEntries_append], ?_⟩
          rw [parts, hrest]
          exact List.rel_append hfirst hcovers

/-- The entries hold the steps of what was recorded, all of them once and in order. -/
theorem steps_of_covers {entries : List (Command σ)} {calls : List (Call σ)}
    (h : List.Forall₂ Command.Covers entries (parts calls)) :
    (entries.flatMap fun command => command.action.steps) =
      (recorded calls).flatMap fun command => command.action.steps := by
  rw [← flatten_parts]
  generalize parts calls = parts at h
  induction h with
  | nil => rfl
  | cons hcovers _ ih =>
      rw [List.flatMap_cons, ih, hcovers.steps, List.flatten_cons, List.flatMap_append]

theorem isEmpty_of_covers {entries : List (Command σ)} {calls : List (Call σ)}
    (h : List.Forall₂ Command.Covers entries (parts calls)) :
    entries.isEmpty = (recorded calls).isEmpty := by
  rw [← flatten_parts]
  generalize parts calls = parts at h
  cases h with
  | nil => rfl
  | @cons _ part _ _ hcovers _ =>
      cases part with
      | nil => cases hcovers.undoUpdatedAt
      | cons first rest => rfl

end History

namespace Workspace

variable {τ κ : Type} [Storage τ κ]

/-- One of the two moves along a history. -/
inductive Reversal where
  | undo
  | redo

/-- Undo and redo in turn, whatever each of them answers. -/
def replay (workspace : Workspace τ κ) (moves : List Reversal) : Workspace τ κ :=
  moves.foldl (fun workspace move =>
    match move with
    | .undo => workspace.undo.2
    | .redo => workspace.redo.2) workspace

theorem commands_undo (workspace : Workspace τ κ) :
    workspace.undo.2.session.history.commands = workspace.session.history.commands := by
  cases hpopped : workspace.session.history.popUndo? with
  | none => simp only [undo, hpopped]
  | some popped =>
      obtain ⟨command, history⟩ := popped
      rw [undo_history hpopped, (History.commands_of_popUndo? hpopped).1]

theorem commands_redo (workspace : Workspace τ κ) :
    workspace.redo.2.session.history.commands = workspace.session.history.commands := by
  cases hpopped : workspace.session.history.popRedo? with
  | none => simp only [redo, hpopped]
  | some popped =>
      obtain ⟨command, history⟩ := popped
      rw [redo_history hpopped, (History.commands_of_popRedo? hpopped).1]

theorem commands_replay (workspace : Workspace τ κ) (moves : List Reversal) :
    (workspace.replay moves).session.history.commands = workspace.session.history.commands := by
  induction moves generalizing workspace with
  | nil => rfl
  | cons move rest ih =>
      cases move with
      | undo => exact (ih workspace.undo.2).trans workspace.commands_undo
      | redo => exact (ih workspace.redo.2).trans workspace.commands_redo

end Workspace

namespace History

/-- A log loses and repeats nothing.  Calls that open groups and close them all again add a command
for every part of what they record; what was undone is forgotten if they record anything.  Undo and
redo, with a storage that answers in any way, leave the same commands in the same order. -/
theorem logs_exactly {σ τ κ : Type} [Storage τ κ] :
    (∀ (history : History σ) (calls : List (Call σ)), history.group = none →
      (history.runCalls calls).group = none →
        ∃ entries, (history.runCalls calls).undoStack = history.undoStack ++ entries ∧
          (entries.flatMap fun command => command.action.steps) =
            ((recorded calls).flatMap fun command => command.action.steps) ∧
          List.Forall₂ Command.Covers entries (parts calls) ∧
          (history.runCalls calls).redoStack =
            if (recorded calls).isEmpty then history.redoStack else []) ∧
      ∀ (workspace : Workspace τ κ) (moves : List Workspace.Reversal),
        (workspace.replay moves).session.history.commands =
          workspace.session.history.commands := by
  constructor
  · intro history calls hidle hclosed
    obtain ⟨entries, hrun, hcovers⟩ := runCalls_of_closed hidle hclosed
    refine ⟨entries, by rw [hrun]; rfl, steps_of_covers hcovers, hcovers, ?_⟩
    rw [hrun, withEntries, isEmpty_of_covers hcovers]
  · exact fun workspace moves => workspace.commands_replay moves

/-- A group that is opened twice and closed twice around a batch, an empty group, and an action on
its own. -/
def nestedCalls : List (Call String) :=
  [.beginGroup, .record ⟨.batch [.step "a", .batch [.step "b"]], ⟨0, 0⟩, ⟨1, 0⟩⟩, .beginGroup,
    .record ⟨.step "c", ⟨1, 0⟩, ⟨2, 0⟩⟩, .endGroup, .endGroup, .beginGroup, .endGroup,
    .record ⟨.step "d", ⟨2, 0⟩, ⟨3, 0⟩⟩]

theorem logs_exactly_nestedCalls :
    (empty.runCalls nestedCalls).group = none ∧
      (∃ entries, (empty.runCalls nestedCalls).undoStack = [] ++ entries ∧
        (entries.flatMap fun command => command.action.steps) = ["a", "b", "c", "d"] ∧
        List.Forall₂ Command.Covers entries (parts nestedCalls) ∧
        (empty.runCalls nestedCalls).redoStack = []) ∧
      (((Workspace.openedTable.run Workspace.opened).replay
        [.undo, .redo, .undo, .undo]).session.history.commands =
          (Workspace.openedTable.run Workspace.opened).session.history.commands) := by
  obtain ⟨hlog, hmoves⟩ :=
    logs_exactly (σ := String) (τ := MemoryStorage Float) (κ := Float)
  exact ⟨rfl, hlog empty nestedCalls rfl rfl, hmoves _ _⟩

end History

end SchemaDiagram
