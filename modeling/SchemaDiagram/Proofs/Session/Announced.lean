import SchemaDiagram.Proofs.Session.Alike
import SchemaDiagram.Proofs.Session.Linked

/-!
# Announced changes

Those who show a diagram look at it again when the session publishes an event.  Every move only
adds to what was published, and where it adds nothing, the diagram keeps its name, its links and its
tables.  One mutation is an exception: replacing the tables as a whole announces the tables that
disappear and nothing else, so that a replacement which drops no table changes the others in
silence, and so do undoing and redoing it.
-/

namespace SchemaDiagram

variable {σ κ α : Type}

/-! ## Mutations without events -/

/-- The mutation replaces the tables as a whole. -/
def Mutation.ReplacesTables : Mutation κ → Prop
  | setTables _ _ => True
  | _ => False

/-- The step was recorded for a replacement of the tables as a whole. -/
def Step.ReplacesTables : Step κ → Prop
  | setTables _ _ _ => True
  | _ => False

/-- The command replaced the tables as a whole, alone or among other steps. -/
def Command.ReplacesTables (command : Command (Step κ)) : Prop :=
  ∃ step ∈ command.action.steps, step.ReplacesTables

theorem DetachedLinks.replacesTables_restore {links : DetachedLinks} {mutation : Mutation κ}
    (h : mutation ∈ links.restore) : ¬mutation.ReplacesTables := by
  rw [restore, List.mem_append] at h
  rcases h with hrelationships | hdependencies
  · split at hrelationships
    · exact absurd hrelationships List.not_mem_nil
    · obtain rfl := List.mem_singleton.mp hrelationships
      exact id
  · split at hdependencies
    · exact absurd hdependencies List.not_mem_nil
    · obtain rfl := List.mem_singleton.mp hdependencies
      exact id

theorem Step.replacesTables_of_undo {step : Step κ} {mutation : Mutation κ}
    (hmem : mutation ∈ step.undo) (h : mutation.ReplacesTables) : step.ReplacesTables := by
  cases step with
  | setTables before after links => trivial
  | removeTables tables links =>
      rcases List.mem_cons.mp hmem with rfl | hrestored
      · exact h
      · exact links.replacesTables_restore hrestored h
  | _ =>
      obtain rfl := List.mem_singleton.mp hmem
      exact h

theorem Step.replacesTables_of_redo {step : Step κ} (h : step.redo.ReplacesTables) :
    step.ReplacesTables := by
  cases step <;> exact h

namespace Mutation

variable {diagram : Diagram κ}

/-- Every change but a replacement of all tables comes with an event. -/
theorem events_ne_nil {mutation : Mutation κ} {change : Change κ}
    (h : mutation.change diagram = .ok change) (hreplaces : ¬mutation.ReplacesTables) :
    change.events ≠ [] := by
  cases mutation with
  | setTables given mode => exact absurd trivial hreplaces
  | renameDiagram | insertTables | addTables | insertRelationships | addRelationships
  | insertDependencies | addDependencies =>
      obtain rfl := Except.ok.inj h
      exact List.cons_ne_nil _ _
  | updateTable | insertField | insertIndex | updateRelationship | updateDependency =>
      obtain ⟨_, -, hchange⟩ := orRefuse_bind_eq_ok_iff.mp h
      obtain rfl := Except.ok.inj hchange
      exact List.cons_ne_nil _ _
  | updateField | removeField | updateIndex | removeIndex =>
      obtain ⟨_, -, hpart⟩ := orRefuse_bind_eq_ok_iff.mp h
      obtain ⟨_, -, hchange⟩ := orRefuse_bind_eq_ok_iff.mp hpart
      obtain rfl := Except.ok.inj hchange
      exact List.cons_ne_nil _ _
  | removeTables ids =>
      simp only [Mutation.change, removeTablesChange] at h
      split at h
      · cases h
      · obtain rfl := Except.ok.inj h
        exact List.cons_ne_nil _ _
  | removeRelationships ids =>
      simp only [Mutation.change, removeRelationshipsChange] at h
      split at h
      · cases h
      · obtain rfl := Except.ok.inj h
        exact List.cons_ne_nil _ _
  | removeDependencies ids =>
      simp only [Mutation.change, removeDependenciesChange] at h
      split at h
      · cases h
      · obtain rfl := Except.ok.inj h
        exact List.cons_ne_nil _ _

theorem vanishing_tablesAfter_eq_nil_iff (before given : List (Table κ)) (mode : TablesMode) :
    vanishing before (tablesAfter before given mode) = [] ↔
      before.map Table.id ⊆ given.map Table.id := by
  rw [List.eq_nil_iff_forall_not_mem]
  constructor
  · intro hnone id hid
    obtain ⟨table, hmem, rfl⟩ := List.mem_map.mp hid
    obtain ⟨other, hother, hsame⟩ :
        ∃ other ∈ tablesAfter before given mode, other.id = table.id := by
      by_contra hmissing
      push Not at hmissing
      exact hnone table.id (mem_vanishing.mpr ⟨⟨table, hmem, rfl⟩, hmissing⟩)
    have hgiven : other ∈ given := by
      cases mode with
      | override => exact hother
      | merge =>
          obtain ⟨old, -, hfind⟩ := List.mem_filterMap.mp hother
          exact List.mem_of_find?_eq_some hfind
    exact List.mem_map.mpr ⟨other, hgiven, hsame⟩
  · intro hall id hid
    obtain ⟨⟨table, hmem, rfl⟩, hmissing⟩ := mem_vanishing.mp hid
    obtain ⟨other, hother, hsame⟩ := List.mem_map.mp (hall (List.mem_map_of_mem hmem))
    cases mode with
    | override => exact hmissing other hother hsame
    | merge =>
        have hfind : (given.find? fun other => other.id == table.id).isSome :=
          List.find?_isSome.mpr ⟨other, hother, by simpa using hsame⟩
        obtain ⟨found, hfound⟩ := Option.isSome_iff_exists.mp hfind
        have hafter : found ∈ tablesAfter before given .merge :=
          List.mem_filterMap.mpr ⟨table, hmem, hfound⟩
        exact hmissing found hafter (key_of_find? hfound)

/-- A replacement of all tables is silent exactly if it drops none. -/
theorem setTables_events_eq_nil_iff (given : List (Table κ)) (mode : TablesMode) :
    (setTablesChange diagram given mode).events = [] ↔
      diagram.tables.map Table.id ⊆ given.map Table.id := by
  rw [← vanishing_tablesAfter_eq_nil_iff diagram.tables given mode]
  change (if (vanishing diagram.tables _).isEmpty then [] else [_]) = [] ↔ _
  rw [← List.isEmpty_iff (l := vanishing _ _)]
  split <;> simp_all

end Mutation

/-! ## What stays in silence -/

/-- What a diagram keeps where nothing is announced: its name, its links and its tables.  If the
tables may be restocked, they may hold something else, but each of them is still there. -/
structure Diagram.Keeps (restocked : Prop) (before after : Diagram κ) : Prop where
  name : after.name = before.name
  relationships : after.relationships = before.relationships
  dependencies : after.dependencies = before.dependencies
  tableIds : before.tableIds ⊆ after.tableIds
  tables : restocked ∨ after.tables = before.tables

namespace Diagram.Keeps

variable {restocked : Prop} {before between after : Diagram κ}

theorem of_same (hname : after.name = before.name) (htables : after.tables = before.tables)
    (hrelationships : after.relationships = before.relationships)
    (hdependencies : after.dependencies = before.dependencies) :
    before.Keeps restocked after where
  name := hname
  relationships := hrelationships
  dependencies := hdependencies
  tableIds := by
    rw [Diagram.tableIds, Diagram.tableIds, htables]
    exact List.Subset.refl _
  tables := .inr htables

theorem trans (h : before.Keeps restocked between) (hrest : between.Keeps restocked after) :
    before.Keeps restocked after where
  name := hrest.name.trans h.name
  relationships := hrest.relationships.trans h.relationships
  dependencies := hrest.dependencies.trans h.dependencies
  tableIds := List.Subset.trans h.tableIds hrest.tableIds
  tables := by
    rcases h.tables with hrestocked | hfirst
    · exact .inl hrestocked
    · exact hrest.tables.imp_right fun hsecond => hsecond.trans hfirst

theorem mono {allowed : Prop} (h : before.Keeps restocked after) (hallowed : restocked → allowed) :
    before.Keeps allowed after :=
  ⟨h.name, h.relationships, h.dependencies, h.tableIds, h.tables.imp_left hallowed⟩

end Diagram.Keeps

/-- A replacement that drops no table keeps the links. -/
theorem Mutation.setTables_keeps {diagram : Diagram κ} {given : List (Table κ)} {mode : TablesMode}
    (h : (setTablesChange diagram given mode).events = []) (now : Timestamp) :
    diagram.Keeps True { (setTablesChange diagram given mode).diagram with updatedAt := now } := by
  have hgiven := (setTables_events_eq_nil_iff given mode).mp h
  have hnone := (vanishing_tablesAfter_eq_nil_iff diagram.tables given mode).mpr hgiven
  have hdetached : (detachLinks diagram
      (vanishing diagram.tables (tablesAfter diagram.tables given mode))).2 = diagram := by
    rw [hnone, detachLinks_of_unlinked fun _ hid => absurd hid List.not_mem_nil]
  have hafter : (setTablesChange diagram given mode).diagram =
      { diagram with tables := tablesAfter diagram.tables given mode } := by
    change withTables diagram (tablesAfter diagram.tables given mode) = _
    rw [withTables, hdetached]
  rw [hafter]
  constructor
  · rfl
  · rfl
  · rfl
  · intro id hid
    by_contra hmissing
    have hvanishes : id ∈ vanishing diagram.tables (tablesAfter diagram.tables given mode) := by
      refine mem_vanishing.mpr ⟨List.mem_map.mp hid, ?_⟩
      rintro table hmem rfl
      exact hmissing (List.mem_map_of_mem hmem)
    rw [hnone] at hvanishes
    exact absurd hvanishes List.not_mem_nil
  · exact .inl trivial

namespace Workspace

/-- One workspace comes from another one by publishing events, possibly none; without an event the
diagram that was loaded is still loaded and keeps what it shows. -/
def Announces (restocked : Prop) (before after : Workspace σ κ) : Prop :=
  ∃ events, after.session.bus = before.session.bus.emit events ∧
    (events = [] → ∀ diagram, before.session.diagram? = some diagram →
      ∃ next, after.session.diagram? = some next ∧ diagram.Keeps restocked next)

namespace Announces

variable {restocked : Prop} {before between after : Workspace σ κ}

/-- Nothing new is on the bus, but the diagram is the same. -/
theorem of_same (hbus : after.session.bus = before.session.bus)
    (hdiagram : after.session.diagram? = before.session.diagram?) :
    before.Announces restocked after := by
  refine ⟨[], ?_, fun _ diagram hloaded => ⟨diagram, hdiagram.trans hloaded, ?_⟩⟩
  · rw [hbus, EventBus.emit, List.append_nil]
  · exact .of_same rfl rfl rfl rfl

/-- Nothing new is on the bus, but the diagram keeps what it shows. -/
theorem of_keeps {diagram next : Diagram κ} (hloaded : before.session.diagram? = some diagram)
    (hbus : after.session.bus = before.session.bus)
    (hafter : after.session.diagram? = some next) (hkeeps : diagram.Keeps restocked next) :
    before.Announces restocked after := by
  refine ⟨[], ?_, fun _ other hother => ⟨next, hafter, ?_⟩⟩
  · rw [hbus, EventBus.emit, List.append_nil]
  · obtain rfl := Option.some.inj (hloaded.symm.trans hother)
    exact hkeeps

theorem refl (workspace : Workspace σ κ) : workspace.Announces restocked workspace :=
  .of_same rfl rfl

theorem of_emit {events : List Event} (hevents : events ≠ [])
    (hbus : after.session.bus = before.session.bus.emit events) :
    before.Announces restocked after :=
  ⟨events, hbus, fun hnone => absurd hnone hevents⟩

theorem trans (h : before.Announces restocked between) (hrest : between.Announces restocked after) :
    before.Announces restocked after := by
  obtain ⟨events, hbus, hkeeps⟩ := h
  obtain ⟨more, hmore, hkeepsRest⟩ := hrest
  refine ⟨events ++ more, ?_, ?_⟩
  · rw [hmore, hbus, EventBus.emit, EventBus.emit, EventBus.emit, List.append_assoc]
  · intro hnone diagram hloaded
    obtain ⟨hfirst, hsecond⟩ := List.append_eq_nil_iff.mp hnone
    obtain ⟨middle, hmiddle, hkept⟩ := hkeeps hfirst diagram hloaded
    obtain ⟨next, hnext, hkeptRest⟩ := hkeepsRest hsecond middle hmiddle
    exact ⟨next, hnext, hkept.trans hkeptRest⟩

theorem mono {allowed : Prop} (h : before.Announces restocked after)
    (hallowed : restocked → allowed) : before.Announces allowed after := by
  obtain ⟨events, hbus, hkeeps⟩ := h
  refine ⟨events, hbus, fun hnone diagram hloaded => ?_⟩
  obtain ⟨next, hnext, hkept⟩ := hkeeps hnone diagram hloaded
  exact ⟨next, hnext, hkept.mono hallowed⟩

end Announces

/-! ## One operation after another -/

section Storage

variable [Storage σ κ]

theorem perform_announces (workspace : Workspace σ κ) (mutation : Mutation κ) (record : Bool) :
    workspace.Announces mutation.ReplacesTables (workspace.perform mutation record).2 := by
  cases hloaded : workspace.session.diagram? with
  | none =>
      rw [perform_of_unloaded mutation record hloaded]
      exact .refl workspace
  | some diagram =>
      cases hchange : mutation.change diagram with
      | error error =>
          rw [perform_of_refusal record hloaded hchange]
          exact .refl workspace
      | ok change =>
          have hsession := perform_session record hloaded hchange
          refine ⟨change.events, ?_, ?_⟩
          · rw [hsession]
            cases record <;> rfl
          · intro hnone other hother
            obtain rfl := Option.some.inj (hloaded.symm.trans hother)
            refine ⟨{ change.diagram with updatedAt := (workspace.session.supply.get 0).time },
              ?_, ?_⟩
            · rw [hsession]
              cases record <;> rfl
            · cases mutation with
              | setTables given mode =>
                  obtain rfl := Except.ok.inj hchange
                  exact Mutation.setTables_keeps hnone _
              | _ => exact absurd hnone (Mutation.events_ne_nil hchange id)

omit [Storage σ κ] in
theorem runAll_announces {restocked : Prop} {operations : List (Workspace σ κ → Answer σ κ Unit)}
    (h : ∀ operation ∈ operations, ∀ workspace : Workspace σ κ,
      workspace.Announces restocked (operation workspace).2)
    (workspace : Workspace σ κ) :
    workspace.Announces restocked (workspace.runAll operations).2 := by
  induction operations generalizing workspace with
  | nil => exact .refl workspace
  | cons operation rest ih =>
      have hfirst := h operation List.mem_cons_self workspace
      have hrest := ih (fun other hother => h other (List.mem_cons_of_mem _ hother))
        (operation workspace).2
      exact hfirst.trans hrest

theorem performUntilError_announces {restocked : Prop} {mutations : List (Mutation κ)}
    (h : ∀ mutation ∈ mutations, mutation.ReplacesTables → restocked)
    (workspace : Workspace σ κ) :
    workspace.Announces restocked (workspace.performUntilError mutations).2 := by
  induction mutations generalizing workspace with
  | nil => exact .refl workspace
  | cons mutation rest ih =>
      have hfirst : workspace.Announces restocked (workspace.perform mutation false).2 :=
        (workspace.perform_announces mutation false).mono (h mutation List.mem_cons_self)
      have hrest := ih fun other hother => h other (List.mem_cons_of_mem _ hother)
      rw [performUntilError]
      generalize workspace.perform mutation false = answer at hfirst
      obtain ⟨result, next⟩ := answer
      cases result with
      | error error => exact hfirst
      | ok _ => exact hfirst.trans (hrest next)

theorem performFor_announces (workspace : Workspace σ κ) (count : Nat) (mutation : Mutation κ)
    (entity : α) :
    workspace.Announces mutation.ReplacesTables (workspace.performFor count mutation entity).2 := by
  have hdrawn : workspace.Announces mutation.ReplacesTables
      (workspace.withSession (workspace.session.draw count)) := .of_same rfl rfl
  exact hdrawn.trans (perform_announces _ mutation true)

theorem setDialect_announces (workspace : Workspace σ κ) (dialect : Dialect) :
    workspace.Announces False (workspace.setDialect dialect).2 := by
  unfold setDialect
  split
  · exact .refl workspace
  · next diagram hloaded => exact .of_keeps hloaded rfl rfl (.of_same rfl rfl rfl rfl)

theorem restoreUpdatedAt_announces (workspace : Workspace σ κ) (time : Timestamp) :
    workspace.Announces False (workspace.restoreUpdatedAt time).2 := by
  unfold restoreUpdatedAt
  split
  · exact .refl workspace
  · next diagram hloaded => exact .of_keeps hloaded rfl rfl (.of_same rfl rfl rfl rfl)

theorem clearDiagram_announces (workspace : Workspace σ κ) :
    workspace.Announces False workspace.clearDiagram.2 := by
  unfold clearDiagram
  split
  · exact .refl workspace
  · exact .of_emit (List.cons_ne_nil _ []) rfl

theorem deleteDiagram_announces (workspace : Workspace σ κ) :
    workspace.Announces False workspace.deleteDiagram.2 := by
  cases hloaded : workspace.session.diagram? with
  | none =>
      simp only [deleteDiagram, hloaded]
      rw [← hloaded]
      exact .refl workspace
  | some diagram =>
      obtain ⟨hsession, -⟩ := deleteDiagram_answer hloaded
      refine .of_emit (List.cons_ne_nil (.diagramDeleted diagram.id) []) ?_
      rw [hsession]
      rfl

/-! ## Plans and texts -/

theorem placeTables_announces [Coordinate κ] (ids : List Identifier) (record : Bool)
    (workspace : Workspace σ κ) :
    workspace.Announces False (placeTables ids record workspace).2 := by
  apply runAll_announces
  intro operation hoperation workspace
  obtain ⟨position, -, rfl⟩ := List.mem_map.mp hoperation
  have hmoved := workspace.perform_announces
    (.updateTable position.tableId { position := some (position.x, position.y) }) record
  exact hmoved.trans (.of_emit (List.cons_ne_nil (.focusTable position.tableId) []) rfl)

/-- The operations of a plan are mutations, none of which replaces the tables as a whole, and
finding places. -/
theorem forall_mem_planOperations [Coordinate κ] {plan : Plan κ} {record : Bool}
    {property : (Workspace σ κ → Answer σ κ Unit) → Prop}
    (hperform : ∀ mutation : Mutation κ, ¬mutation.ReplacesTables →
      property fun workspace => workspace.perform mutation record)
    (hplace : ∀ ids, property (placeTables ids record)) :
    ∀ operation ∈ planOperations plan record, property operation := by
  have hskipped : ∀ {skip : Bool} {operations : List (Workspace σ κ → Answer σ κ Unit)}
      {operation : Workspace σ κ → Answer σ κ Unit},
      operation ∈ (if skip then [] else operations) → operation ∈ operations := by
    intro skip operations operation hmem
    cases skip with
    | true => exact absurd hmem List.not_mem_nil
    | false => exact hmem
  intro operation hoperation
  simp only [planOperations, List.mem_append] at hoperation
  rcases hoperation with ((((hdeleted | hupdated) | hcreated) | hunlinked) | hrelinked) | hlinked
  · obtain rfl := List.mem_singleton.mp (hskipped hdeleted)
    exact hperform _ id
  · obtain ⟨update, -, rfl⟩ := List.mem_map.mp hupdated
    exact hperform _ id
  · rcases List.mem_cons.mp (hskipped hcreated) with rfl | hplaced
    · exact hperform _ id
    · obtain rfl := List.mem_singleton.mp hplaced
      exact hplace _
  · obtain rfl := List.mem_singleton.mp (hskipped hunlinked)
    exact hperform _ id
  · obtain ⟨update, -, rfl⟩ := List.mem_map.mp hrelinked
    exact hperform _ id
  · obtain rfl := List.mem_singleton.mp (hskipped hlinked)
    exact hperform _ id

theorem planOperations_announces [Coordinate κ] (plan : Plan κ) (record : Bool) :
    ∀ operation ∈ planOperations (σ := σ) plan record, ∀ workspace : Workspace σ κ,
      workspace.Announces False (operation workspace).2 :=
  forall_mem_planOperations
    (fun mutation hkeeps workspace => (workspace.perform_announces mutation record).mono hkeeps)
    fun ids workspace => placeTables_announces ids record workspace

theorem applyPlan_announces [Coordinate κ] (workspace : Workspace σ κ) (plan : Plan κ)
    (record : Bool) : workspace.Announces False (workspace.applyPlan plan record).2 := by
  unfold applyPlan
  split
  · exact .refl workspace
  · split
    · exact .refl workspace
    · split
      · have hopened : workspace.Announces False (workspace.mapHistory History.beginGroup) :=
          .of_same rfl rfl
        have hdone := runAll_announces (planOperations_announces (σ := σ) plan true)
          (workspace.mapHistory History.beginGroup)
        exact (hopened.trans hdone).trans (.of_same rfl rfl)
      · exact runAll_announces (planOperations_announces plan false) workspace

theorem applyText_announces [Coordinate κ] (workspace : Workspace σ κ) (text : String) :
    workspace.Announces False (workspace.applyText text).2 := by
  unfold applyText
  split
  · exact .refl workspace
  · have hplanned : workspace.Announces False
        (workspace.withSession (planFor workspace.session text).2) := .of_same rfl rfl
    exact hplanned.trans (applyPlan_announces _ (planFor workspace.session text).1 true)

/-! ## Undo and redo -/

/-- Replaying operations with another history, and restoring the time of the last update. -/
theorem replayed_announces {restocked : Prop} {operations : List (Workspace σ κ → Answer σ κ Unit)}
    (h : ∀ operation ∈ operations, ∀ workspace : Workspace σ κ,
      workspace.Announces restocked (operation workspace).2)
    (workspace : Workspace σ κ) (history : History (Step κ)) (time : Timestamp) :
    workspace.Announces restocked
      (((workspace.mapHistory fun _ => history).runAll operations).2.restoreUpdatedAt time).2 := by
  have hpast : workspace.Announces restocked (workspace.mapHistory fun _ => history) :=
    .of_same rfl rfl
  have hreplayed := runAll_announces h (workspace.mapHistory fun _ => history)
  exact (hpast.trans hreplayed).trans ((restoreUpdatedAt_announces _ time).mono False.elim)

theorem undo_announces (workspace : Workspace σ κ) :
    workspace.Announces
      (∃ command history, workspace.session.history.popUndo? = some (command, history) ∧
        command.ReplacesTables) workspace.undo.2 := by
  unfold undo
  split
  · exact .refl workspace
  · next command history hpopped =>
      refine ((replayed_announces ?_ workspace history command.undoUpdatedAt).trans
        (.of_same rfl rfl)).mono fun hreplaces => ⟨command, history, hpopped, hreplaces⟩
      intro operation hoperation workspace
      obtain ⟨step, hmem, rfl⟩ := List.mem_map.mp hoperation
      apply performUntilError_announces
      intro mutation hmutation hreplaces
      exact ⟨step, List.mem_reverse.mp hmem, Step.replacesTables_of_undo hmutation hreplaces⟩

theorem redo_announces (workspace : Workspace σ κ) :
    workspace.Announces
      (∃ command history, workspace.session.history.popRedo? = some (command, history) ∧
        command.ReplacesTables) workspace.redo.2 := by
  unfold redo
  split
  · exact .refl workspace
  · next command history hpopped =>
      refine ((replayed_announces ?_ workspace history command.redoUpdatedAt).trans
        (.of_same rfl rfl)).mono fun hreplaces => ⟨command, history, hpopped, hreplaces⟩
      intro operation hoperation workspace
      obtain ⟨step, hmem, rfl⟩ := List.mem_map.mp hoperation
      refine (workspace.perform_announces step.redo false).mono ?_
      exact fun hreplaces => ⟨step, hmem, step.replacesTables_of_redo hreplaces⟩

end Storage

end Workspace

/-! ## Moves -/

/-- What a session can be asked to do with a loaded diagram: to go forward by an operation, redoing
included, or to go back. -/
inductive Move (κ : Type) : Type → Type 1
  | forward {α : Type} (operation : Operation κ α) : Move κ α
  | undo : Move κ Bool

namespace Move

def run [Coordinate κ] [Storage σ κ] (workspace : Workspace σ κ) : Move κ α → Answer σ κ α
  | forward operation => operation.run workspace
  | undo => workspace.undo

/-- The move replaces the tables as a whole, or replays a command that did. -/
def ReplacesTables (session : Session κ) : Move κ α → Prop
  | forward (.mutate mutation _) => mutation.ReplacesTables
  | forward .redo => ∃ command history,
      session.history.popRedo? = some (command, history) ∧ command.ReplacesTables
  | forward _ => False
  | undo => ∃ command history,
      session.history.popUndo? = some (command, history) ∧ command.ReplacesTables

variable [Coordinate κ] [Storage σ κ]

open Workspace

theorem forward_announces (workspace : Workspace σ κ) (operation : Operation κ α) :
    workspace.Announces ((forward operation).ReplacesTables workspace.session)
      (operation.run workspace).2 := by
  cases operation with
  | mutate mutation record => exact workspace.perform_announces mutation record
  | createTable attributes => exact workspace.performFor_announces _ _ _
  | createField tableId =>
      simp only [Operation.run, createField]
      split
      · exact .refl workspace
      · exact workspace.performFor_announces _ _ _
  | createIndex tableId =>
      simp only [Operation.run, createIndex]
      split
      · exact .refl workspace
      · exact workspace.performFor_announces _ _ _
  | createRelationship source target =>
      simp only [Operation.run, createRelationship]
      split
      · exact .refl workspace
      · exact workspace.performFor_announces _ _ _
  | createDependency tableId dependentTableId =>
      simp only [Operation.run, createDependency]
      split
      · exact .refl workspace
      · exact workspace.performFor_announces _ _ _
  | applyText text => exact workspace.applyText_announces text
  | applyPlan plan record => exact workspace.applyPlan_announces plan record
  | setDialect dialect => exact workspace.setDialect_announces dialect
  | filterSchemas ids => exact .of_same rfl rfl
  | clearDiagram => exact workspace.clearDiagram_announces
  | deleteDiagram => exact workspace.deleteDiagram_announces
  | redo => exact workspace.redo_announces

/-- What a move announces, whether or not a diagram is loaded. -/
theorem announces (workspace : Workspace σ κ) (move : Move κ α) :
    workspace.Announces (move.ReplacesTables workspace.session) (move.run workspace).2 := by
  cases move with
  | forward operation => exact forward_announces workspace operation
  | undo => exact workspace.undo_announces

/-- Whatever the storage answers, a move publishes an event or leaves the diagram with its name,
its links and its tables.  Only where it replaces the tables as a whole, or replays such a
replacement, the tables may hold something else without an event: a replacement that is asked for
publishes nothing exactly if it gives every table that is there. -/
theorem run_announces {workspace : Workspace σ κ} {diagram : Diagram κ}
    (hloaded : workspace.session.diagram? = some diagram) (move : Move κ α) :
    (∃ events, (move.run workspace).2.session.bus = workspace.session.bus.emit events ∧
      (events = [] → ∃ after, (move.run workspace).2.session.diagram? = some after ∧
        diagram.Keeps (move.ReplacesTables workspace.session) after)) ∧
      ∀ given mode record,
        (workspace.perform (.setTables given mode) record).2.session.bus = workspace.session.bus ↔
          diagram.tableIds ⊆ given.map Table.id := by
  constructor
  · obtain ⟨events, hbus, hkeeps⟩ := announces workspace move
    exact ⟨events, hbus, fun hnone => hkeeps hnone diagram hloaded⟩
  · intro given mode record
    have hsession := perform_session record hloaded
      (show (Mutation.setTables given mode).change diagram = .ok _ from rfl)
    have hbus : (workspace.perform (.setTables given mode) record).2.session.bus =
        workspace.session.bus.emit (Mutation.setTablesChange diagram given mode).events := by
      rw [hsession]
      cases record <;> rfl
    rw [hbus, Diagram.tableIds, ← Mutation.setTables_events_eq_nil_iff given mode]
    constructor
    · intro hsame
      have hpublished := congrArg EventBus.published hsame
      exact List.append_right_eq_self.mp hpublished
    · intro hnone
      rw [hnone, EventBus.emit, List.append_nil]

end Move

/-! ## A table that changes in silence -/

namespace Workspace

/-- A session with one table. -/
def stocked : Workspace (MemoryStorage Float) Float :=
  openedTable.run opened

/-- The last command of this session added its table, so that undoing it is announced. -/
theorem stocked_undo_announces :
    ∃ diagram, stocked.session.diagram? = some diagram ∧ diagram.tables.length = 1 ∧
      ∃ events, stocked.undo.2.session.bus = stocked.session.bus.emit events ∧
        (events = [] → ∃ after, stocked.undo.2.session.diagram? = some after ∧
          diagram.Keeps (Move.undo.ReplacesTables stocked.session) after) := by
  have hloaded : stocked.session.diagram?.isSome = true := by decide +kernel
  obtain ⟨diagram, hdiagram⟩ := Option.isSome_iff_exists.mp hloaded
  have hlength : stocked.session.diagram?.map (fun diagram => diagram.tables.length) = some 1 := by
    decide +kernel
  rw [hdiagram] at hlength
  exact ⟨diagram, hdiagram, Option.some.inj hlength,
    (Move.run_announces hdiagram Move.undo).1⟩

/-- The table is replaced by one with another name, and the replacement is undone.  Nothing is
published at either time. -/
theorem stocked_setTables_silent :
    let bills := stocked.session.tables.map fun table => { table with name := "bills" }
    let replaced := (stocked.perform (.setTables bills .merge) true).2
    stocked.session.tables.map Table.name = ["orders"] ∧
      replaced.session.tables.map Table.name = ["bills"] ∧
      replaced.undo.2.session.tables.map Table.name = ["orders"] ∧
      replaced.session.bus.published = stocked.session.bus.published ∧
      replaced.undo.2.session.bus.published = stocked.session.bus.published := by
  decide +kernel

end Workspace

end SchemaDiagram
