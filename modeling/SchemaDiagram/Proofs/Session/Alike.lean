import SchemaDiagram.Proofs.Session.Reached
import SchemaDiagram.Session.Create

/-!
# Forward operations and the storage

Two workspaces with the same memory may write to storages that answer each write in their own way.
Every operation that goes forward takes both to the same memory again: all that a storage can change
is the result that is reported.  An operation that waited for a write before it changed the session,
or that stopped at a write that failed, would let the two memories part.  Undoing is such an
operation and is left out; so are making and loading a diagram, which read the storage.
-/

namespace SchemaDiagram

variable {σ τ κ α β : Type}

/-! ## Sessions with the same memory -/

/-- Two sessions agree in everything but the dialect of new diagrams. -/
structure Session.Alike (first second : Session κ) : Prop where
  diagram : first.diagram? = second.diagram?
  history : first.history = second.history
  filter : first.schemaFilter = second.schemaFilter
  bus : first.bus = second.bus
  layout : first.layout = second.layout
  supply : first.supply = second.supply

namespace Session.Alike

variable {first second : Session κ}

/-- While a diagram is loaded, the dialect is its own. -/
theorem dialect_eq {diagram : Diagram κ} (h : first.Alike second)
    (hloaded : first.diagram? = some diagram) : first.dialect = second.dialect := by
  simp only [Session.dialect, ← h.diagram, hloaded, Option.map_some, Option.getD_some]

theorem tables_eq (h : first.Alike second) : first.tables = second.tables := by
  simp only [Session.tables, h.diagram]

theorem relationships_eq (h : first.Alike second) :
    first.relationships = second.relationships := by
  simp only [Session.relationships, h.diagram]

theorem table?_eq (h : first.Alike second) (id : Identifier) :
    first.table? id = second.table? id := by
  simp only [Session.table?, h.diagram]

theorem endAt_eq (h : first.Alike second) (tableId fieldId : Identifier) :
    Workspace.endAt first tableId fieldId = Workspace.endAt second tableId fieldId := by
  simp only [Workspace.endAt, h.table?_eq]

theorem draw (h : first.Alike second) (count : Nat) :
    (first.draw count).Alike (second.draw count) :=
  ⟨h.diagram, h.history, h.filter, h.bus, h.layout,
    congrArg (fun supply => supply.drop count) h.supply⟩

theorem emit (h : first.Alike second) (events : List Event) :
    (first.emit events).Alike (second.emit events) :=
  ⟨h.diagram, h.history, h.filter, congrArg (fun bus => bus.emit events) h.bus, h.layout,
    h.supply⟩

theorem mapHistory (h : first.Alike second) (change : History (Step κ) → History (Step κ)) :
    Alike { first with history := change first.history }
      { second with history := change second.history } :=
  ⟨h.diagram, congrArg change h.history, h.filter, h.bus, h.layout, h.supply⟩

theorem withDiagram (h : first.Alike second) (diagram : Option (Diagram κ)) :
    Alike { first with diagram? := diagram } { second with diagram? := diagram } :=
  ⟨rfl, h.history, h.filter, h.bus, h.layout, h.supply⟩

theorem emptied (h : first.Alike second) :
    Alike { first with history := History.empty, schemaFilter := none }
      { second with history := History.empty, schemaFilter := none } :=
  ⟨h.diagram, rfl, rfl, h.bus, h.layout, h.supply⟩

theorem filterSchemas (h : first.Alike second) (ids : List String) :
    (first.filterSchemas ids).Alike (second.filterSchemas ids) :=
  ⟨h.diagram, h.history, rfl, h.bus, h.layout, h.supply⟩

theorem visibleTables_eq (h : first.Alike second) :
    first.visibleTables = second.visibleTables := by
  cases hloaded : first.diagram? with
  | none =>
      have hfirst : first.tables = [] := by simp only [Session.tables, hloaded]; rfl
      simp only [Session.visibleTables, ← h.tables_eq, hfirst, List.filter_nil]
  | some diagram =>
      simp only [Session.visibleTables, Session.chosenSchemas, Session.schemas,
        h.dialect_eq hloaded, h.tables_eq, h.filter]

theorem commit (h : first.Alike second) (record : Bool) (diagram : Diagram κ)
    (change : Change κ) :
    (first.commit record diagram change).1.Alike (second.commit record diagram change).1 ∧
      (first.commit record diagram change).2 = (second.commit record diagram change).2 := by
  unfold Session.commit
  rw [← h.supply]
  have hchanged := ((h.draw 1).withDiagram (some { change.diagram with
    updatedAt := (first.supply.get 0).time })).emit change.events
  refine ⟨?_, rfl⟩
  cases record with
  | false => exact hchanged
  | true =>
      exact hchanged.mapHistory fun history =>
        history.record (.step change.step) diagram.updatedAt (first.supply.get 0).time

/-- A mutation is refused by both sessions with the same error, or both write the same. -/
theorem mutate (h : first.Alike second) (mutation : Mutation κ) (record : Bool) :
    (first.mutate mutation record).1 = (second.mutate mutation record).1 ∧
      (first.mutate mutation record).2.Alike (second.mutate mutation record).2 := by
  simp only [Session.mutate, ← h.diagram]
  cases first.diagram? with
  | none => exact ⟨rfl, h⟩
  | some diagram =>
      dsimp only
      cases mutation.change diagram with
      | error refusal => exact ⟨rfl, h.withDiagram _⟩
      | ok change =>
          obtain ⟨hafter, hwrites⟩ := h.commit record diagram change
          exact ⟨congrArg Except.ok hwrites, hafter⟩

end Session.Alike

/-! ## Answers that agree -/

/-- The sessions are alike afterwards, and the results differ only where one of them is a failure
of the storage. -/
structure Workspace.Agree (first : Answer σ κ α) (second : Answer τ κ α) : Prop where
  sessions : first.2.session.Alike second.2.session
  results : Served first.1 → Served second.1 → first.1 = second.1

theorem Served.of_map {result : Except SessionError α} {f : α → β} (h : Served (result.map f)) :
    Served result := by
  rintro error rfl
  exact h error rfl

theorem Served.firstError_left {first second : Except SessionError Unit}
    (h : Served (firstError first second)) : Served first := by
  rintro error rfl
  exact h error rfl

namespace Workspace

/-- Two operations agree on all workspaces with the same memory. -/
def AgreeOnAlike (first : Workspace σ κ → Answer σ κ α) (second : Workspace τ κ → Answer τ κ α) :
    Prop :=
  ∀ workspace other, workspace.session.Alike other.session →
    Agree (first workspace) (second other)

theorem Agree.same {first : Workspace σ κ} {second : Workspace τ κ}
    (h : first.session.Alike second.session) (result : Except SessionError α) :
    Agree (result, first) (result, second) :=
  ⟨h, fun _ _ => rfl⟩

/-- Operations that only wait for writes agree. -/
theorem Agree.written {first : Answer σ κ Unit} {second : Answer τ κ Unit}
    (h : first.2.session.Alike second.2.session)
    (hfirst : first.1 = .ok () ∨ ∃ error, first.1 = .error (.storage error))
    (hsecond : second.1 = .ok () ∨ ∃ error, second.1 = .error (.storage error)) :
    Agree first second := by
  constructor
  · exact h
  · intro hserved hother
    rcases hfirst with hok | ⟨error, herror⟩
    · rcases hsecond with hdone | ⟨error, herror⟩
      · rw [hok, hdone]
      · exact absurd herror (hother error)
    · exact absurd herror (hserved error)

theorem Agree.map {first : Answer σ κ α} {second : Answer τ κ α} (h : Agree first second)
    (f : α → β) : Agree (first.1.map f, first.2) (second.1.map f, second.2) := by
  constructor
  · exact h.sessions
  · intro hfirst hsecond
    exact congrArg (Except.map f) (h.results hfirst.of_map hsecond.of_map)

/-- Whatever leaves alike sessions alike may follow. -/
theorem Agree.andThen {first : Answer σ κ α} {second : Answer τ κ α} (h : Agree first second)
    {change : Session κ → Session κ}
    (hchange : ∀ {session other : Session κ}, session.Alike other →
      (change session).Alike (change other)) :
    Agree (first.1, first.2.withSession (change first.2.session))
      (second.1, second.2.withSession (change second.2.session)) :=
  ⟨hchange h.sessions, h.results⟩

/-- Of two operations in a row the first failure is reported. -/
theorem Agree.firstError {first next : Answer σ κ Unit} {second other : Answer τ κ Unit}
    (h : Agree first second) (hnext : Agree next other) :
    Agree (firstError first.1 next.1, next.2) (firstError second.1 other.1, other.2) := by
  constructor
  · exact hnext.sessions
  · intro hfirst hsecond
    have hsame : first.1 = second.1 := h.results hfirst.firstError_left hsecond.firstError_left
    simp only [hsame] at hfirst ⊢
    cases hresult : second.1 with
    | error error => rfl
    | ok _ =>
        rw [hresult] at hfirst hsecond
        exact hnext.results hfirst hsecond

theorem agree_runAll {operations : List (Workspace σ κ → Answer σ κ Unit)}
    {others : List (Workspace τ κ → Answer τ κ Unit)}
    (h : List.Forall₂ AgreeOnAlike operations others) :
    AgreeOnAlike (fun workspace => workspace.runAll operations)
      (fun workspace => workspace.runAll others) := by
  induction h with
  | nil => exact fun _ _ halike => .same halike _
  | cons hfirst _ ih =>
      intro workspace other halike
      have hhead := hfirst workspace other halike
      exact hhead.firstError (ih _ _ hhead.sessions)

theorem forall₂_map_agree {γ : Type} {operation : γ → Workspace σ κ → Answer σ κ α}
    {other : γ → Workspace τ κ → Answer τ κ α}
    (h : ∀ item, AgreeOnAlike (operation item) (other item)) (items : List γ) :
    List.Forall₂ AgreeOnAlike (items.map operation) (items.map other) :=
  List.forall₂_map_left_iff.mpr
    (List.forall₂_map_right_iff.mpr (List.forall₂_same.mpr fun item _ => h item))

theorem forall₂_unless_agree {operations : List (Workspace σ κ → Answer σ κ α)}
    {others : List (Workspace τ κ → Answer τ κ α)} (skip : Bool)
    (h : List.Forall₂ AgreeOnAlike operations others) :
    List.Forall₂ AgreeOnAlike (if skip then [] else operations) (if skip then [] else others) := by
  cases skip
  · exact h
  · exact .nil

/-! ## One operation after another -/

variable [Storage σ κ] [Storage τ κ] {first : Workspace σ κ} {second : Workspace τ κ}

/-- What is written decides about failures only. -/
theorem agree_writeAll (h : first.session.Alike second.session) (writes more : List (Write κ)) :
    Agree (first.writeAll writes) (second.writeAll more) :=
  .written h (writeAll_result first writes) (writeAll_result second more)

theorem agree_perform (h : first.session.Alike second.session) (mutation : Mutation κ)
    (record : Bool) : Agree (first.perform mutation record) (second.perform mutation record) := by
  obtain ⟨hresult, hafter⟩ := h.mutate mutation record
  unfold perform
  generalize first.session.mutate mutation record = answer at hresult hafter
  generalize second.session.mutate mutation record = other at hresult hafter
  obtain ⟨result, session⟩ := answer
  obtain ⟨_, session'⟩ := other
  obtain rfl : result = _ := hresult
  cases result with
  | error error => exact .same hafter _
  | ok writes => exact agree_writeAll hafter writes writes

theorem agree_performFor (h : first.session.Alike second.session) (count : Nat)
    (mutation : Mutation κ) (entity : α) :
    Agree (first.performFor count mutation entity) (second.performFor count mutation entity) := by
  have hdrawn : (first.withSession (first.session.draw count)).session.Alike
      (second.withSession (second.session.draw count)).session := h.draw count
  exact (agree_perform hdrawn mutation true).map fun _ => entity

theorem agree_setDialect (h : first.session.Alike second.session) (dialect : Dialect) :
    Agree (first.setDialect dialect) (second.setDialect dialect) := by
  unfold setDialect
  rw [← h.diagram]
  cases first.session.diagram? with
  | none => exact .same h _
  | some diagram => exact agree_writeAll (h.withDiagram _) _ _

theorem agree_clearDiagram (h : first.session.Alike second.session) :
    Agree first.clearDiagram second.clearDiagram := by
  unfold clearDiagram
  rw [← h.diagram, ← h.supply]
  cases first.session.diagram? with
  | none => exact .same h _
  | some diagram =>
      have hcleared := (((h.draw 1).withDiagram (some { diagram with
        tables := [], relationships := [], dependencies := []
        updatedAt := (first.session.supply.get 0).time })).mapHistory fun _ =>
          History.empty).emit [.diagramCleared diagram.id]
      exact agree_writeAll hcleared _ _

omit [Storage τ κ] in
/-- The session is empty before the first write, whichever of them fails. -/
theorem deleteDiagram_answer {diagram : Diagram κ}
    (hloaded : first.session.diagram? = some diagram) :
    first.deleteDiagram.2.session = Session.emit { first.session with
        diagram? := none, history := History.empty, schemaFilter := none }
          [.diagramDeleted diagram.id] ∧
      (first.deleteDiagram.1 = .ok () ∨
        ∃ error, first.deleteDiagram.1 = .error (.storage error)) := by
  simp only [deleteDiagram, hloaded]
  split
  · next error workspace hemptied =>
      have hresult := hemptied ▸ writeAll_result _ _
      exact ⟨congrArg (fun answer => answer.2.session) hemptied.symm, hresult⟩
  · next workspace hemptied =>
      exact ⟨congrArg (fun answer => answer.2.session) hemptied.symm, writeAll_result _ _⟩

theorem agree_deleteDiagram (h : first.session.Alike second.session) :
    Agree first.deleteDiagram second.deleteDiagram := by
  cases hloaded : first.session.diagram? with
  | none =>
      simp only [deleteDiagram, ← h.diagram, hloaded]
      exact .same (h.withDiagram none) _
  | some diagram =>
      obtain ⟨hsession, hresult⟩ := deleteDiagram_answer hloaded
      obtain ⟨hother, hotherResult⟩ := deleteDiagram_answer (h.diagram.symm.trans hloaded)
      refine .written ?_ hresult hotherResult
      rw [hsession, hother]
      exact (h.withDiagram none).emptied.emit [.diagramDeleted diagram.id]

theorem agree_placeTables [Coordinate κ] (h : first.session.Alike second.session)
    (ids : List Identifier) (record : Bool) :
    Agree (placeTables ids record first) (placeTables ids record second) := by
  unfold placeTables
  simp only [h.layout, h.visibleTables_eq, h.relationships_eq]
  refine agree_runAll (forall₂_map_agree (fun position => ?_) _) first second h
  intro workspace other halike
  exact (agree_perform halike _ record).andThen fun halike =>
    halike.emit [.focusTable position.tableId]

theorem forall₂_planOperations [Coordinate κ] (plan : Plan κ) (record : Bool) :
    List.Forall₂ AgreeOnAlike (planOperations (σ := σ) plan record)
      (planOperations (σ := τ) plan record) := by
  have hmutation : ∀ mutation : Mutation κ, AgreeOnAlike
      (fun workspace : Workspace σ κ => workspace.perform mutation record)
      (fun workspace : Workspace τ κ => workspace.perform mutation record) :=
    fun mutation _ _ halike => agree_perform halike mutation record
  have hplaces : AgreeOnAlike (placeTables (σ := σ) (plan.createdTables.map Table.id) record)
      (placeTables (σ := τ) (plan.createdTables.map Table.id) record) :=
    fun _ _ halike => agree_placeTables halike _ record
  unfold planOperations
  refine List.rel_append (List.rel_append (List.rel_append (List.rel_append (List.rel_append
    ?deleted ?updated) ?created) ?unlinked) ?relinked) ?linked
  case deleted => exact forall₂_unless_agree _ (.cons (hmutation _) .nil)
  case updated => exact forall₂_map_agree (fun update => hmutation _) _
  case created => exact forall₂_unless_agree _ (.cons (hmutation _) (.cons hplaces .nil))
  case unlinked => exact forall₂_unless_agree _ (.cons (hmutation _) .nil)
  case relinked => exact forall₂_map_agree (fun update => hmutation _) _
  case linked => exact forall₂_unless_agree _ (.cons (hmutation _) .nil)

theorem agree_applyPlan [Coordinate κ] (h : first.session.Alike second.session) (plan : Plan κ)
    (record : Bool) : Agree (first.applyPlan plan record) (second.applyPlan plan record) := by
  unfold applyPlan
  rw [← h.diagram]
  by_cases hloaded : first.session.diagram?.isNone = true
  · rw [if_pos hloaded, if_pos hloaded]
    exact .same h _
  rw [if_neg hloaded, if_neg hloaded]
  by_cases hempty : plan.isEmpty = true
  · rw [if_pos hempty, if_pos hempty]
    exact .same h _
  rw [if_neg hempty, if_neg hempty]
  cases record with
  | false => exact agree_runAll (forall₂_planOperations plan false) first second h
  | true =>
      have hopened : (first.mapHistory History.beginGroup).session.Alike
          (second.mapHistory History.beginGroup).session := h.mapHistory History.beginGroup
      -- the group is closed whether or not an operation failed
      exact (agree_runAll (forall₂_planOperations plan true) _ _ hopened).andThen fun halike =>
        halike.mapHistory History.endGroup

theorem agree_applyText [Coordinate κ] (h : first.session.Alike second.session) (text : String) :
    Agree (first.applyText text) (second.applyText text) := by
  unfold applyText
  rw [← h.diagram]
  cases hloaded : first.session.diagram? with
  | none => exact .same h _
  | some diagram =>
      obtain ⟨hplan, hdrawn⟩ : (planFor first.session text).1 = (planFor second.session text).1 ∧
          (planFor first.session text).2.Alike (planFor second.session text).2 := by
        simp only [planFor, h.dialect_eq hloaded, h.tables_eq, h.relationships_eq, h.supply]
        exact ⟨trivial, h.draw _⟩
      have happlied : Agree ((first.withSession (planFor first.session text).2).applyPlan
          (planFor first.session text).1 true)
          ((second.withSession (planFor second.session text).2).applyPlan
            (planFor second.session text).1 true) := by
        rw [← hplan]
        exact agree_applyPlan hdrawn _ true
      simp only [Option.isNone_some, Bool.false_eq_true, if_false, hplan] at happlied ⊢
      exact happlied.map fun _ => (planFor second.session text).1

theorem agree_restoreUpdatedAt (h : first.session.Alike second.session) (time : Timestamp) :
    Agree (first.restoreUpdatedAt time) (second.restoreUpdatedAt time) := by
  unfold restoreUpdatedAt
  rw [← h.diagram]
  cases first.session.diagram? with
  | none => exact .same h _
  | some diagram => exact agree_writeAll (h.withDiagram _) _ _

theorem agree_redo (h : first.session.Alike second.session) : Agree first.redo second.redo := by
  unfold redo
  rw [← h.history]
  cases first.session.history.popRedo? with
  | none => exact .same h _
  | some popped =>
      obtain ⟨command, history⟩ := popped
      have hpopped : (first.mapHistory fun _ => history).session.Alike
          (second.mapHistory fun _ => history).session := h.mapHistory fun _ => history
      have hredone : Agree ((first.mapHistory fun _ => history).redoSteps command.action)
          ((second.mapHistory fun _ => history).redoSteps command.action) :=
        agree_runAll (forall₂_map_agree (fun step _ _ halike =>
          agree_perform halike step.redo false) command.action.steps) _ _ hpopped
      have hrestored := agree_restoreUpdatedAt hredone.sessions command.redoUpdatedAt
      exact ((hredone.firstError hrestored).map fun _ => true).andThen fun halike =>
        halike.mapHistory fun history => history.pushUndo command

/-! ## Entities made by the session -/

omit [Storage τ κ] in
theorem performFor_of_unloaded (hloaded : first.session.diagram? = none) (count : Nat)
    (mutation : Mutation κ) (entity : α) :
    first.performFor count mutation entity =
      (.error .noDiagramLoaded, first.withSession (first.session.draw count)) := by
  have hdrawn : (first.withSession (first.session.draw count)).session.diagram? = none := hloaded
  rw [performFor, perform_of_unloaded mutation true hdrawn]
  rfl

theorem agree_createTable [Coordinate κ] (h : first.session.Alike second.session)
    (attributes : TablePatch κ) :
    Agree (first.createTable attributes) (second.createTable attributes) := by
  cases hloaded : first.session.diagram? with
  | none =>
      unfold createTable
      -- the type of the key field may differ here, but nothing is added
      rw [performFor_of_unloaded hloaded, performFor_of_unloaded (h.diagram.symm.trans hloaded)]
      exact .same (h.draw 2) _
  | some diagram =>
      simp only [createTable, h.supply, h.dialect_eq hloaded, h.tables_eq]
      exact agree_performFor h _ _ _

theorem agree_createField (h : first.session.Alike second.session) (tableId : Identifier) :
    Agree (first.createField tableId) (second.createField tableId) := by
  simp only [createField, h.table?_eq, h.supply]
  cases htable : second.session.table? tableId with
  | none => exact .same h _
  | some table =>
      obtain ⟨diagram, hloaded, -⟩ := Option.bind_eq_some_iff.mp htable
      rw [h.dialect_eq (h.diagram.trans hloaded)]
      exact agree_performFor h _ _ _

theorem agree_createIndex (h : first.session.Alike second.session) (tableId : Identifier) :
    Agree (first.createIndex tableId) (second.createIndex tableId) := by
  simp only [createIndex, h.table?_eq, h.supply]
  cases second.session.table? tableId with
  | none => exact .same h _
  | some table => exact agree_performFor h _ _ _

theorem agree_createRelationship (h : first.session.Alike second.session)
    (source target : Identifier × Identifier) :
    Agree (first.createRelationship source target)
      (second.createRelationship source target) := by
  simp only [createRelationship, h.endAt_eq, h.supply]
  split
  · exact .same h _
  · exact agree_performFor h _ _ _

theorem agree_createDependency (h : first.session.Alike second.session)
    (tableId dependentTableId : Identifier) :
    Agree (first.createDependency tableId dependentTableId)
      (second.createDependency tableId dependentTableId) := by
  simp only [createDependency, h.table?_eq, h.supply]
  split
  · exact .same h _
  · exact agree_performFor h _ _ _

end Workspace

/-! ## Forward operations -/

/-- What a session can be asked to do with a loaded diagram other than to undo, by the type of the
entity or of the value that is answered. -/
inductive Operation (κ : Type) : Type → Type 1
  | mutate (mutation : Mutation κ) (record : Bool) : Operation κ Unit
  | createTable (attributes : TablePatch κ) : Operation κ (Table κ)
  | createField (tableId : Identifier) : Operation κ Field
  | createIndex (tableId : Identifier) : Operation κ Index
  | createRelationship (source target : Identifier × Identifier) : Operation κ Relationship
  | createDependency (tableId dependentTableId : Identifier) : Operation κ Dependency
  | applyText (text : String) : Operation κ (Plan κ)
  | applyPlan (plan : Plan κ) (record : Bool) : Operation κ Unit
  | setDialect (dialect : Dialect) : Operation κ Unit
  | filterSchemas (ids : List String) : Operation κ Unit
  | clearDiagram : Operation κ Unit
  | deleteDiagram : Operation κ Unit
  | redo : Operation κ Bool

namespace Operation

variable [Coordinate κ] [Storage σ κ] [Storage τ κ] {first : Workspace σ κ}
  {second : Workspace τ κ}

def run (workspace : Workspace σ κ) : Operation κ α → Answer σ κ α
  | mutate mutation record => workspace.perform mutation record
  | createTable attributes => workspace.createTable attributes
  | createField tableId => workspace.createField tableId
  | createIndex tableId => workspace.createIndex tableId
  | createRelationship source target => workspace.createRelationship source target
  | createDependency tableId dependentTableId =>
    workspace.createDependency tableId dependentTableId
  | applyText text => workspace.applyText text
  | applyPlan plan record => workspace.applyPlan plan record
  | setDialect dialect => workspace.setDialect dialect
  | filterSchemas ids => (.ok (), workspace.withSession (workspace.session.filterSchemas ids))
  | clearDiagram => workspace.clearDiagram
  | deleteDiagram => workspace.deleteDiagram
  | redo => workspace.redo

/-- The workspace after operations in a row, whatever they answer. -/
def runEach (workspace : Workspace σ κ) (operations : List (Σ β, Operation κ β)) :
    Workspace σ κ :=
  operations.foldl (fun workspace operation => (operation.2.run workspace).2) workspace

open Workspace

/-- One operation keeps two memories alike. -/
theorem agree_run (h : first.session.Alike second.session) (operation : Operation κ α) :
    Agree (operation.run first) (operation.run second) := by
  cases operation with
  | mutate mutation record => exact agree_perform h mutation record
  | createTable attributes => exact agree_createTable h attributes
  | createField tableId => exact agree_createField h tableId
  | createIndex tableId => exact agree_createIndex h tableId
  | createRelationship source target => exact agree_createRelationship h source target
  | createDependency tableId dependentTableId =>
      exact agree_createDependency h tableId dependentTableId
  | applyText text => exact agree_applyText h text
  | applyPlan plan record => exact agree_applyPlan h plan record
  | setDialect dialect => exact agree_setDialect h dialect
  | filterSchemas ids => exact .same (h.filterSchemas ids) _
  | clearDiagram => exact agree_clearDiagram h
  | deleteDiagram => exact agree_deleteDiagram h
  | redo => exact agree_redo h

theorem runEach_alike (h : first.session.Alike second.session)
    (operations : List (Σ β, Operation κ β)) :
    (runEach first operations).session.Alike (runEach second operations).session := by
  induction operations generalizing first second with
  | nil => exact h
  | cons operation rest ih => exact ih (agree_run h operation.2).sessions

/-- Whatever two storages answer, the same operations on the same memory lead to the same memory,
and each of them is answered the same unless one of the storages fails. -/
theorem agree_run_runEach (h : first.session.Alike second.session)
    (earlier : List (Σ β, Operation κ β)) (operation : Operation κ α) :
    Agree (operation.run (runEach first earlier)) (operation.run (runEach second earlier)) :=
  agree_run (runEach_alike h earlier) operation

/-- The session that is in use, over a storage that refuses every write. -/
def refusing : Workspace (MemoryStorage Float) Float :=
  { opened with storage := opened.storage.setWritesDisabled true }

theorem opened_alike_refusing : opened.session.Alike refusing.session :=
  ⟨rfl, rfl, rfl, rfl, rfl, rfl⟩

/-- After a text and a text without tables, one more table is made. -/
theorem agree_run_opened_refusing :
    let texts : List (Σ β, Operation Float β) :=
      [⟨Plan Float, .applyText "Table a \x7b\n\tid int\n\x7d"⟩, ⟨Plan Float, .applyText ""⟩]
    Agree ((createTable {}).run (runEach opened texts))
      ((createTable {}).run (runEach refusing texts)) :=
  agree_run_runEach opened_alike_refusing _ (createTable {})

end Operation

end SchemaDiagram
