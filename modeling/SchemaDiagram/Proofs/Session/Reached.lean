import SchemaDiagram.Proofs.Session.Timeline
import SchemaDiagram.Storage.Memory

/-!
# Sessions follow their timelines

A loaded session is edited, undone and redone in any order.  Every edit that changes the history
enters the diagram after it into the timeline, and at every moment the session shows exactly the
diagram at the position that the undos and redos have moved to.  The storage is left open; only
undoing depends on its writes, since it stops at the first one that fails.
-/

namespace SchemaDiagram.Workspace

variable {σ κ : Type} [Storage σ κ] [Coordinate κ]

/-- The workspaces that a loaded one becomes, with the timelines of its diagrams. -/
inductive Reached (start : Workspace σ κ) : Workspace σ κ → Timeline κ → Prop
  | loaded {diagram : Diagram κ} (hloaded : start.session.diagram? = some diagram)
      (hhistory : start.session.history = History.empty) :
      Reached start start ⟨[diagram], 0⟩
  | passed {workspace : Workspace σ κ} {timeline : Timeline κ} (edit : Edit κ)
      (hreached : Reached start workspace timeline) (hallowed : edit.Allowed workspace.session)
      (hhistory : (edit.run workspace).session.history = workspace.session.history) :
      Reached start (edit.run workspace) timeline
  | entered {workspace : Workspace σ κ} {timeline : Timeline κ} {diagram : Diagram κ}
      (edit : Edit κ) (hreached : Reached start workspace timeline)
      (hallowed : edit.Allowed workspace.session)
      (hhistory : (edit.run workspace).session.history ≠ workspace.session.history)
      (hdiagram : (edit.run workspace).session.diagram? = some diagram) :
      Reached start (edit.run workspace) (timeline.enter diagram)
  | undone {workspace : Workspace σ κ} {timeline : Timeline κ}
      (hreached : Reached start workspace timeline) (hserved : Served workspace.undo.1) :
      Reached start workspace.undo.2 timeline.back
  | redone {workspace : Workspace σ κ} {timeline : Timeline κ}
      (hreached : Reached start workspace timeline) :
      Reached start workspace.redo.2 timeline.forth

omit [Storage σ κ] [Coordinate κ] in
theorem push_ne {history : History (Step κ)} {command : Command (Step κ)} :
    history.push command ≠ history := by
  intro heq
  have hlength := congrArg (fun history => history.undoStack.length) heq
  simp [History.push] at hlength

theorem Reached.onTimeline {start workspace : Workspace σ κ} {timeline : Timeline κ}
    (h : start.Reached workspace timeline) : workspace.OnTimeline timeline := by
  induction h with
  | loaded hloaded hhistory => exact .of_load hloaded hhistory
  | @passed workspace timeline edit _ hallowed hhistory ih =>
      rcases edit_records ih.idle hallowed with ⟨-, hdiagram⟩ | ⟨_, _, command, -, -, hpush, -⟩
      · exact ih.stay hhistory hdiagram
      · exact absurd (hpush.symm.trans hhistory) push_ne
  | @entered workspace timeline diagram edit _ hallowed hhistory hdiagram ih =>
      obtain ⟨hsame, -⟩ | ⟨_, _, command, hstart, hpresent, hpush, hconnects⟩ :=
        edit_records ih.idle hallowed
      · exact absurd hsame hhistory
      · obtain rfl := Option.some.inj (hpresent.symm.trans hdiagram)
        exact ih.enter hstart hpresent hpush hconnects
  | undone _ hserved ih => exact ih.undo hserved
  | redone _ ih => exact ih.redo

/-- What holds of a session that stands on a timeline: it shows the present diagram, undo and redo
answer whether there is a position to move to, and an edit records one command or nothing. -/
structure Follows (workspace : Workspace σ κ) (timeline : Timeline κ) : Prop where
  present : ∃ diagram, timeline.present? = some diagram ∧
    workspace.session.diagram? = some diagram
  undoable : workspace.session.history.undoStack.length = timeline.position
  redoable : timeline.position + workspace.session.history.redoStack.length + 1 =
    timeline.states.length
  undo_first : timeline.position = 0 → workspace.undo = (.ok false, workspace)
  undo_later : 0 < timeline.position →
    workspace.undo.1 = .ok true ∨ ∃ error, workspace.undo.1 = .error (.storage error)
  redo_last : timeline.position + 1 = timeline.states.length →
    workspace.redo = (.ok false, workspace)
  redo_earlier : timeline.position + 1 < timeline.states.length →
    workspace.redo.1 = .ok true ∨ ∃ error, workspace.redo.1 = .error (.storage error)
  edits : ∀ edit : Edit κ, edit.Allowed workspace.session →
    ((edit.run workspace).session.history = workspace.session.history ∧
      (edit.run workspace).session.diagram? = workspace.session.diagram?) ∨
    ∃ command diagram,
      (edit.run workspace).session.history = workspace.session.history.push command ∧
        (edit.run workspace).session.diagram? = some diagram
  texts : ∀ text : String, Edit.Allowed workspace.session (.applyText text : Edit κ) →
    ((planFor workspace.session text).1.isEmpty = true ↔
      (Edit.run workspace (.applyText text)).session.history = workspace.session.history)

/-- At every moment of its use a session follows the timeline of its diagrams. -/
theorem Reached.follows {start workspace : Workspace σ κ} {timeline : Timeline κ}
    (h : start.Reached workspace timeline) : workspace.Follows timeline := by
  have hon := h.onTimeline
  have hbound := hon.redoStack_length
  obtain ⟨diagram, hpresent⟩ : ∃ diagram, timeline.present? = some diagram :=
    ⟨_, List.getElem?_eq_getElem (by omega)⟩
  have hloaded : workspace.session.diagram? = some diagram := hon.diagram.trans hpresent
  constructor
  · exact ⟨diagram, hpresent, hloaded⟩
  · exact hon.position
  · exact hbound
  · exact hon.undo_first
  · intro hlater
    exact (hon.undo_back hlater).imp And.left id
  · exact hon.redo_last
  · exact fun hearlier => (hon.redo_forth hearlier).2
  · intro edit hallowed
    rcases edit_records hon.idle hallowed with hsame | ⟨_, present, command, -, hdiagram, hpush, -⟩
    · exact .inl hsame
    · exact .inr ⟨command, present, hpush, hdiagram⟩
  · intro text hallowed
    constructor
    · exact fun hempty => (applyText_of_isEmpty hempty).1
    · intro hsame
      cases hplan : (planFor workspace.session text).1.isEmpty with
      | true => rfl
      | false =>
          obtain ⟨_, command, -, hpush, -⟩ :=
            applyText_records_of_nonempty hloaded hon.idle (hallowed diagram hloaded) hplan
          exact absurd (hpush.symm.trans hsame) push_ne

/-! ## A session in use -/

/-- A session with a new diagram in a storage that serves every write. -/
def opened : Workspace (MemoryStorage Float) Float :=
  (createDiagram ⟨Session.new Config.standard LayoutConfig.standard
    ⟨fun n => ⟨Identifier.ofNat (n + 1), ⟨n, 0⟩, ""⟩, 0⟩, MemoryStorage.empty⟩ "shop" none).2

/-- The new diagram. -/
def openedDiagram : Diagram Float :=
  Diagram.new ⟨Identifier.ofNat 1, ⟨0, 0⟩, ""⟩ "shop" .generic

/-- An empty table is added, and it is undone. -/
def openedTable : Edit Float :=
  .mutate (.addTables [Table.new ⟨Identifier.ofNat 100, ⟨0, 0⟩, ""⟩ "orders" 0 0])

theorem opened_follows : (openedTable.run opened).undo.2.Follows
    (Timeline.enter ⟨[openedDiagram], 0⟩
      { openedDiagram with
        tables := [Table.new ⟨Identifier.ofNat 100, ⟨0, 0⟩, ""⟩ "orders" 0 0]
        updatedAt := ⟨1, 0⟩ }).back := by
  apply Reached.follows
  apply Reached.undone
  · apply Reached.entered
    · exact .loaded rfl rfl
    · intro diagram hloaded
      obtain rfl := Option.some.inj hloaded
      intro table _
      exact ⟨rfl, fun _ hmem => absurd hmem List.not_mem_nil,
        fun _ hmem => absurd hmem List.not_mem_nil⟩
    · intro hsame
      have hlength := congrArg (fun history => history.undoStack.length) hsame
      exact absurd hlength (by decide)
    · rfl
  · have hok : (openedTable.run opened).undo.1 = .ok true := rfl
    intro error herror
    rw [hok] at herror
    cases herror

end SchemaDiagram.Workspace
