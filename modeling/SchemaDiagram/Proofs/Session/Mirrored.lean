import SchemaDiagram.Proofs.Session.ReplayInStep

/-!
# Storage mirrors memory

A session that is the only one to write to a storage in memory keeps the two in step, whatever it is
asked to do with history: every edit is written as a delta of its own, and so are undo, redo, a
change of the dialect and the removal of everything.  What carries the argument is the timeline of
the session, all of whose diagrams have distinct identifiers.
-/

namespace SchemaDiagram

variable {σ κ : Type}

/-! ## Timelines in another dialect -/

theorem Step.Connects.relabel {step : Step κ} {before after : Diagram κ}
    (h : step.Connects before after) (dialect : Dialect → Dialect) :
    step.Connects (before.relabel dialect id) (after.relabel dialect id) :=
  ⟨fun time => (h.back time).relabel dialect id, fun time => (h.forth time).relabel dialect id⟩

theorem Step.Trail.relabel {steps : List (Step κ)} {before after : Diagram κ}
    (h : Trail steps before after) (dialect : Dialect → Dialect) :
    Trail steps (before.relabel dialect id) (after.relabel dialect id) := by
  induction steps generalizing before with
  | nil =>
      obtain ⟨time, rfl⟩ := h
      exact ⟨time, rfl⟩
  | cons step rest ih =>
      obtain ⟨between, hfirst, hrest⟩ := h
      exact ⟨between.relabel dialect id, hfirst.relabel dialect, ih hrest⟩

theorem Command.Connects.relabel {command : Command (Step κ)} {before after : Diagram κ}
    (h : command.Connects before after) (dialect : Dialect → Dialect) :
    command.Connects (before.relabel dialect id) (after.relabel dialect id) :=
  ⟨h.trail.relabel dialect, h.undoUpdatedAt, h.redoUpdatedAt⟩

/-- All diagrams of a timeline with another dialect. -/
def Timeline.relabel (timeline : Timeline κ) (dialect : Dialect → Dialect) : Timeline κ :=
  { timeline with states := timeline.states.map fun state => state.relabel dialect id }

namespace Workspace

/-- Commands lead along the same timeline in another dialect: no step says anything about it. -/
theorem OnTimeline.relabel {before after : Workspace σ κ} {timeline : Timeline κ}
    (h : before.OnTimeline timeline) (dialect : Dialect → Dialect)
    (hdiagram : after.session.diagram? =
      before.session.diagram?.map fun diagram => diagram.relabel dialect id)
    (hhistory : after.session.history = before.session.history) :
    after.OnTimeline (timeline.relabel dialect) := by
  constructor
  · rw [hdiagram, h.diagram]
    exact (List.getElem?_map ..).symm
  · rw [hhistory]
    exact h.idle
  · rw [hhistory]
    exact h.position
  · rw [hhistory, ← h.length]
    exact List.length_map _
  · intro i command first second hcommand hfirst hsecond
    rw [hhistory] at hcommand
    rw [Timeline.relabel, List.getElem?_map] at hfirst hsecond
    obtain ⟨start, hstart, rfl⟩ := Option.map_eq_some_iff.mp hfirst
    obtain ⟨next, hnext, rfl⟩ := Option.map_eq_some_iff.mp hsecond
    exact (h.connects i command start next hcommand hstart hnext).relabel dialect

section

variable [Storage σ κ] {workspace : Workspace σ κ} {diagram : Diagram κ}

/-- A change of the dialect changes nothing else about the loaded diagram, and not the history. -/
theorem setDialect_session (hloaded : workspace.session.diagram? = some diagram)
    (dialect : Dialect) :
    (workspace.setDialect dialect).2.session.diagram? =
        some (diagram.relabel (fun _ => dialect) id) ∧
      (workspace.setDialect dialect).2.session.history = workspace.session.history := by
  simp only [Workspace.setDialect, hloaded]
  exact ⟨rfl, rfl⟩

theorem OnTimeline.setDialect {timeline : Timeline κ} (h : workspace.OnTimeline timeline)
    (hloaded : workspace.session.diagram? = some diagram) (dialect : Dialect) :
    (workspace.setDialect dialect).2.OnTimeline (timeline.relabel fun _ => dialect) := by
  obtain ⟨hdiagram, hhistory⟩ := setDialect_session hloaded dialect
  apply h.relabel _ _ hhistory
  rw [hdiagram, hloaded, Option.map_some]

end

/-! ## Diagrams in step -/

variable {workspace : Workspace (MemoryStorage κ) κ} {diagram : Diagram κ}

theorem InStep.setDialect (h : workspace.InStep diagram) (dialect : Dialect) :
    (workspace.setDialect dialect).1 = .ok () ∧
      (workspace.setDialect dialect).2.InStep (diagram.relabel (fun _ => dialect) id) := by
  simp only [Workspace.setDialect, h.loaded]
  exact h.update { dialect := some dialect } rfl

theorem InStep.clearDiagram (h : workspace.InStep diagram) :
    workspace.clearDiagram.1 = .ok () ∧
      ∃ after, workspace.clearDiagram.2.InStep after ∧ after.Distinct := by
  let now := (workspace.session.supply.get 0).time
  have hwrites : ∀ stored : Diagram κ, stored.Mirrors diagram → ∃ last,
      DiagramWrite.applyAll stored [.updateDiagram { updatedAt := some now }, .clearTables,
        .clearRelationships, .clearDependencies] = .ok last ∧
      last.Mirrors { diagram with
        tables := [], relationships := [], dependencies := [], updatedAt := now } := by
    intro stored hmirrors
    exact ⟨_, rfl, ⟨.refl _, .refl _, .refl _⟩,
      (hmirrors.applyUpdate { updatedAt := some now }).summary⟩
  simp only [Workspace.clearDiagram, h.loaded]
  exact ⟨(h.writeAll rfl hwrites).1, _, (h.writeAll rfl hwrites).2, List.nodup_nil,
    List.nodup_nil, List.nodup_nil⟩

/-- A diagram that is created is stored and loaded. -/
theorem inStep_createDiagram (workspace : Workspace (MemoryStorage κ) κ)
    (henabled : workspace.storage.writesDisabled = false) (name : String)
    (dialect : Option Dialect) :
    ∃ diagram, (workspace.createDiagram name dialect).1 = .ok diagram ∧ diagram.Distinct ∧
      (workspace.createDiagram name dialect).2.InStep diagram ∧
      (workspace.createDiagram name dialect).2.session.history = History.empty := by
  let diagram := Diagram.new (κ := κ) (workspace.session.supply.get 0) name
    (dialect.getD workspace.session.defaultDialect)
  have hwrite : Storage.write workspace.storage (.addDiagram diagram) =
      (.ok (), workspace.storage.insert diagram) := by
    change workspace.storage.write _ = _
    simp only [MemoryStorage.write, henabled, Bool.false_eq_true, if_false]
  have hcreated : workspace.createDiagram name dialect = (.ok diagram,
      ⟨(workspace.session.draw 1).load diagram, workspace.storage.insert diagram⟩) := by
    simp only [createDiagram, writeAll, withSession, Storage.writeAll]
    rw [hwrite]
    rfl
  rw [hcreated]
  exact ⟨diagram, rfl, ⟨List.nodup_nil, List.nodup_nil, List.nodup_nil⟩,
    ⟨rfl, diagram, MemoryStorage.serves_insert henabled diagram, .refl diagram⟩, rfl⟩

/-- A stored diagram that is loaded is in step. -/
theorem inStep_loadDiagram (workspace : Workspace (MemoryStorage κ) κ) {stored : Diagram κ}
    (hserves : workspace.storage.Serves stored) :
    (workspace.loadDiagram stored.id).1 = .ok stored ∧
      (workspace.loadDiagram stored.id).2.InStep stored ∧
      (workspace.loadDiagram stored.id).2.session.history = History.empty := by
  have hget : Storage.getDiagram workspace.storage stored.id = .ok stored := by
    simp only [Storage.getDiagram, MemoryStorage.getDiagram, hserves.found]
  have hloaded : workspace.loadDiagram stored.id =
      (.ok stored, workspace.withSession (workspace.session.load stored)) := by
    rw [loadDiagram, hget]
  rw [hloaded]
  exact ⟨rfl, ⟨rfl, stored, hserves, .refl stored⟩, rfl⟩

/-! ## Calls -/

end Workspace

/-- What a session may be asked for while a diagram is loaded. -/
inductive Call (κ : Type) where
  | edit (edit : Edit κ)
  | setDialect (dialect : Dialect)
  | clear
  | undo
  | redo

/-- What an edit puts in is new. -/
def Call.New [Coordinate κ] (session : Session κ) : Call κ → Prop
  | edit content => content.New session
  | _ => True

namespace Workspace

/-- What a call answers, and the workspace after it. -/
def call [Storage σ κ] [Coordinate κ] (workspace : Workspace σ κ) : Call κ → Answer σ κ Unit
  | .edit edit => workspace.answerTo edit
  | .setDialect dialect => workspace.setDialect dialect
  | .clear => workspace.clearDiagram
  | .undo => forget workspace.undo
  | .redo => forget workspace.redo

/-- The answers that a session gives, from where a diagram is created or loaded, and the workspace
after them.  The storage serves writes, and none but the session writes to it. -/
inductive Run [Coordinate κ] :
    List (Except SessionError Unit) → Workspace (MemoryStorage κ) κ → Prop
  | created (start : Workspace (MemoryStorage κ) κ)
      (henabled : start.storage.writesDisabled = false) (name : String)
      (dialect : Option Dialect) :
      Run [(forget (start.createDiagram name dialect)).1] (start.createDiagram name dialect).2
  | loaded (start : Workspace (MemoryStorage κ) κ) {stored : Diagram κ}
      (hserves : start.storage.Serves stored) (hdistinct : stored.Distinct) :
      Run [(forget (start.loadDiagram stored.id)).1] (start.loadDiagram stored.id).2
  | called {answers : List (Except SessionError Unit)}
      {workspace : Workspace (MemoryStorage κ) κ} (hrun : Run answers workspace) (call : Call κ)
      (hnew : call.New workspace.session) :
      Run (answers ++ [(workspace.call call).1]) (workspace.call call).2

/-- What a session keeps up: it stands on a timeline of diagrams with distinct identifiers, all that
its history brings back is distinct as well, and the storage is in step. -/
structure Mirrored (workspace : Workspace (MemoryStorage κ) κ) : Prop where
  timeline : ∃ timeline, workspace.OnTimeline timeline ∧
    ∀ state ∈ timeline.states, state.Distinct
  brings : workspace.session.history.BringsDistinct
  inStep : ∃ diagram, workspace.InStep diagram

variable {workspace : Workspace (MemoryStorage κ) κ}

/-- A diagram that has just been loaded, and of which no history is known. -/
theorem Mirrored.of_load {diagram : Diagram κ} (h : workspace.InStep diagram)
    (hdistinct : diagram.Distinct) (hhistory : workspace.session.history = History.empty) :
    workspace.Mirrored := by
  refine ⟨Along.of_load h.loaded hhistory hdistinct, ?_, diagram, h⟩
  rw [hhistory]
  exact History.bringsDistinct_empty

/-- The present diagram is one of the timeline. -/
theorem Mirrored.distinct (h : workspace.Mirrored) {diagram : Diagram κ}
    (hloaded : workspace.session.diagram? = some diagram) : diagram.Distinct := by
  obtain ⟨timeline, htimeline, hdistinct⟩ := h.timeline
  rw [htimeline.diagram] at hloaded
  exact hdistinct diagram (List.mem_of_getElem? hloaded)

theorem Mirrored.edit [Coordinate κ] (h : workspace.Mirrored) {edit : Edit κ}
    (hnew : edit.New workspace.session) :
    Served (workspace.answerTo edit).1 ∧ (workspace.answerTo edit).2.Mirrored := by
  have halong : Along Diagram.Distinct workspace := h.timeline
  obtain ⟨diagram, hstep⟩ := h.inStep
  obtain ⟨hserved, hbrings, next, hnext, hnextDistinct⟩ :=
    hstep.answerTo (h.distinct hstep.loaded) hnew
  refine ⟨hserved, ?_, hbrings h.brings, next, hnext⟩
  have hrecords := sound_records halong.idle hnew.sound
  rw [← answerTo_run] at hrecords
  refine halong.records hrecords fun present hpresent => ?_
  obtain rfl := Option.some.inj (hnext.loaded.symm.trans hpresent)
  exact hnextDistinct

theorem Mirrored.setDialect (h : workspace.Mirrored) (dialect : Dialect) :
    Served (workspace.setDialect dialect).1 ∧ (workspace.setDialect dialect).2.Mirrored := by
  obtain ⟨timeline, htimeline, hdistinct⟩ := h.timeline
  obtain ⟨diagram, hstep⟩ := h.inStep
  obtain ⟨hok, hnext⟩ := hstep.setDialect dialect
  refine ⟨?_, ⟨_, htimeline.setDialect hstep.loaded dialect, ?_⟩, ?_, _, hnext⟩
  · rw [hok]
    exact served_ok ()
  · intro state hstate
    obtain ⟨before, hbefore, rfl⟩ := List.mem_map.mp hstate
    obtain ⟨htables, hrelationships, hdependencies⟩ := hdistinct before hbefore
    exact ⟨htables, hrelationships, hdependencies⟩
  · rw [(setDialect_session hstep.loaded dialect).2]
    exact h.brings

theorem Mirrored.clearDiagram (h : workspace.Mirrored) :
    Served workspace.clearDiagram.1 ∧ workspace.clearDiagram.2.Mirrored := by
  obtain ⟨diagram, hstep⟩ := h.inStep
  obtain ⟨hok, after, hnext, hdistinct⟩ := hstep.clearDiagram
  refine ⟨?_, .of_load hnext hdistinct ?_⟩
  · rw [hok]
    exact served_ok ()
  · simp only [Workspace.clearDiagram, hstep.loaded]
    rfl

theorem Mirrored.undo (h : workspace.Mirrored) :
    Served workspace.undo.1 ∧ workspace.undo.2.Mirrored := by
  obtain ⟨timeline, htimeline, hdistinct⟩ := h.timeline
  obtain ⟨diagram, hstep⟩ := h.inStep
  obtain ⟨hserved, hbrings, hnext⟩ := hstep.undo htimeline hdistinct h.brings
  exact ⟨hserved, ⟨timeline.back, htimeline.undo hserved, hdistinct⟩, hbrings, hnext⟩

theorem Mirrored.redo (h : workspace.Mirrored) :
    Served workspace.redo.1 ∧ workspace.redo.2.Mirrored := by
  obtain ⟨timeline, htimeline, hdistinct⟩ := h.timeline
  obtain ⟨diagram, hstep⟩ := h.inStep
  obtain ⟨hserved, hbrings, hnext⟩ :=
    hstep.redo htimeline (h.distinct hstep.loaded) h.brings
  exact ⟨hserved, ⟨timeline.forth, htimeline.redo, hdistinct⟩, hbrings, hnext⟩

theorem Mirrored.call [Coordinate κ] (h : workspace.Mirrored) {call : Call κ}
    (hnew : call.New workspace.session) :
    Served (workspace.call call).1 ∧ (workspace.call call).2.Mirrored := by
  cases call with
  | edit edit => exact h.edit hnew
  | setDialect dialect => exact h.setDialect dialect
  | clear => exact h.clearDiagram
  | undo => exact ⟨served_map h.undo.1 _, h.undo.2⟩
  | redo => exact ⟨served_map h.redo.1 _, h.redo.2⟩

theorem Run.served_mirrored [Coordinate κ] {answers : List (Except SessionError Unit)}
    (h : Run answers workspace) : (∀ answer ∈ answers, Served answer) ∧ workspace.Mirrored := by
  induction h with
  | created start henabled name dialect =>
      obtain ⟨diagram, hok, hdistinct, hstep, hhistory⟩ :=
        start.inStep_createDiagram henabled name dialect
      refine ⟨?_, .of_load hstep hdistinct hhistory⟩
      intro answer hanswer
      obtain rfl := List.mem_singleton.mp hanswer
      rw [forget, hok]
      exact served_ok ()
  | loaded start hserves hdistinct =>
      obtain ⟨hok, hstep, hhistory⟩ := start.inStep_loadDiagram hserves
      refine ⟨?_, .of_load hstep hdistinct hhistory⟩
      intro answer hanswer
      obtain rfl := List.mem_singleton.mp hanswer
      rw [forget, hok]
      exact served_ok ()
  | called _ call hnew ih =>
      obtain ⟨hserved, hmirrored⟩ := ih.2.call hnew
      refine ⟨?_, hmirrored⟩
      intro answer hanswer
      rcases List.mem_append.mp hanswer with hearlier | hlast
      · exact ih.1 answer hearlier
      · obtain rfl := List.mem_singleton.mp hlast
        exact hserved

/-- No call of a run reports a failure of the storage, and after every call what is stored mirrors
the loaded diagram. -/
theorem Run.mirrored [Coordinate κ] {answers : List (Except SessionError Unit)}
    (h : Run answers workspace) :
    (∀ answer ∈ answers, Served answer) ∧ ∃ diagram, workspace.InStep diagram :=
  ⟨h.served_mirrored.1, h.served_mirrored.2.inStep⟩

/-! ## A table that is created and undone -/

/-- A session without a diagram, over a storage that serves every write. -/
def unopened : Workspace (MemoryStorage Float) Float :=
  ⟨Session.new Config.standard LayoutConfig.standard
    ⟨fun n => ⟨Identifier.ofNat (n + 1), ⟨n, 0⟩, ""⟩, 0⟩, MemoryStorage.empty⟩

theorem unopened_mirrored :
    let created := unopened.createDiagram "shop" none
    let tabled := created.2.call (.edit (.createTable {}))
    let renamed := tabled.2.call (.setDialect .sqlite)
    let undone := renamed.2.call .undo
    (∀ answer ∈ [(forget created).1] ++ [tabled.1] ++ [renamed.1] ++ [undone.1],
      Served answer) ∧ ∃ diagram, undone.2.InStep diagram := by
  intro created tabled renamed undone
  refine Run.mirrored (.called (.called (.called (.created unopened rfl "shop" none)
    (.edit (.createTable {})) ⟨?_, ?_, ?_⟩) (.setDialect .sqlite) trivial) .undo trivial)
  · intro diagram hloaded id hid
    obtain rfl := Option.some.inj hloaded
    exact .of_empty rfl rfl rfl id
  · exact fun _ hmutate => by cases hmutate
  · exact List.nodup_singleton _

end Workspace

end SchemaDiagram
