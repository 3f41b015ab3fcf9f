import SchemaDiagram.Proofs.Session.CarriedOut
import SchemaDiagram.Proofs.Session.Edit

/-!
# Edits in step

Whatever an edit puts in, the storage takes it along, as long as identifiers do not clash: a refused
edit changes nothing on either side, and one that is carried out is written without failure.
-/

namespace SchemaDiagram

open Reconciliation

variable {σ κ : Type}

/-! ## Refusals -/

theorem served_ok {α : Type} (value : α) : Served (.ok value) :=
  fun _ h => by cases h

theorem served_map {α β : Type} {result : Except SessionError α} (h : Served result) (f : α → β) :
    Served (result.map f) := by
  cases result with
  | ok value => exact served_ok (f value)
  | error error =>
      intro failure hsame
      obtain rfl := Except.error.inj hsame
      exact h failure rfl

theorem served_orRefuse_bind {α β : Type} {error : SessionError} {value : Option α}
    {next : α → Except SessionError β} (herror : ∀ failure, error ≠ .storage failure)
    (hnext : ∀ x, Served (next x)) : Served (Mutation.orRefuse error value >>= next) := by
  cases value with
  | none => exact fun failure h => herror failure (Except.error.inj h)
  | some x => exact hnext x

/-! ## New entities -/

/-- What an edit puts in is new: its identifiers differ from each other and from those in use, and
no link stands at them. -/
structure Edit.New [Coordinate κ] (session : Session κ) (edit : Edit κ) : Prop where
  sound : edit.Sound session
  passed : ∀ mutation, edit = .mutate mutation →
    ∀ diagram, session.diagram? = some diagram → mutation.BringsNew diagram
  made : (edit.made session).Nodup

theorem Diagram.nodup_map_concat {α : Type} {key : α → Identifier} {items : List α} {item : α}
    (hitems : (items.map key).Nodup) (hitem : key item ∉ items.map key) :
    ((items ++ [item]).map key).Nodup := by
  rw [List.map_append, List.map_singleton, ← List.concat_eq_append]
  exact hitems.concat hitem

theorem Diagram.dependency?_eq_none_iff {diagram : Diagram κ} {id : Identifier} :
    diagram.dependency? id = none ↔ id ∉ diagram.dependencies.map Dependency.id := by
  simp [dependency?, List.find?_eq_none]

/-- A plan that creates what a diagram spares creates new entities. -/
theorem Plan.new_of_spares {plan : Plan κ} {diagram : Diagram κ} (hdistinct : diagram.Distinct)
    (hcreated : plan.createdIds.Nodup) (hspared : ∀ id ∈ plan.createdIds, diagram.Spares id) :
    plan.New diagram.tables diagram.relationships := by
  rw [Plan.createdIds, List.nodup_append] at hcreated
  constructor
  · rw [List.nodup_append]
    refine ⟨hdistinct.tables, hcreated.1, ?_⟩
    rintro id hlive other hother rfl
    exact Diagram.table?_eq_none_iff.mp (hspared id (List.mem_append_left _ hother)).table hlive
  · rw [List.nodup_append]
    refine ⟨hdistinct.relationships, hcreated.2.1, ?_⟩
    rintro id hlive other hother rfl
    exact Diagram.relationship?_eq_none_iff.mp
      (hspared id (List.mem_append_right _ hother)).relationship hlive

namespace Workspace

/-! ## Answers -/

/-- An answer apart from what it returns. -/
def forget {α : Type} (answer : Answer σ κ α) : Answer σ κ Unit :=
  (answer.1.map fun _ => (), answer.2)

/-- What an edit answers, and the workspace after it. -/
def answerTo [Storage σ κ] [Coordinate κ] (workspace : Workspace σ κ) :
    Edit κ → Answer σ κ Unit
  | .mutate mutation => workspace.perform mutation true
  | .createTable attributes => forget (workspace.createTable attributes)
  | .createField tableId => forget (workspace.createField tableId)
  | .createIndex tableId => forget (workspace.createIndex tableId)
  | .createRelationship source target => forget (workspace.createRelationship source target)
  | .createDependency tableId dependentTableId =>
    forget (workspace.createDependency tableId dependentTableId)
  | .applyText text => forget (workspace.applyText text)

theorem answerTo_run [Storage σ κ] [Coordinate κ] (workspace : Workspace σ κ) (edit : Edit κ) :
    (workspace.answerTo edit).2 = edit.run workspace := by
  cases edit <;> rfl

/-- An answer reports no failure of the storage, and the workspace is in step with it afterwards;
all that is recorded brings distinct identifiers. -/
structure AnswersInStep (history : History (Step κ)) (answer : Answer (MemoryStorage κ) κ Unit) :
    Prop where
  served : Served answer.1
  brings : history.BringsDistinct → answer.2.session.history.BringsDistinct
  inStep : ∃ diagram, answer.2.InStep diagram ∧ diagram.Distinct

variable {workspace : Workspace (MemoryStorage κ) κ} {diagram : Diagram κ}

/-- An answer without an operation. -/
theorem InStep.answers (h : workspace.InStep diagram) (hdistinct : diagram.Distinct)
    {result : Except SessionError Unit} (hresult : Served result) :
    AnswersInStep workspace.session.history (result, workspace) :=
  ⟨hresult, id, diagram, h, hdistinct⟩

theorem AnswersInStep.forget {α : Type} {history : History (Step κ)}
    {answer : Answer (MemoryStorage κ) κ Unit} (h : AnswersInStep history answer)
    (value : Unit → α) :
    AnswersInStep history (Workspace.forget (answer.1.map value, answer.2)) :=
  ⟨served_map (served_map h.served value) _, h.brings, h.inStep⟩

/-- A mutation that brings new entities is carried out in step, or refused. -/
theorem InStep.answers_perform (h : workspace.InStep diagram) (hdistinct : diagram.Distinct)
    {mutation : Mutation κ} (hnew : mutation.BringsNew diagram) (record : Bool) :
    AnswersInStep workspace.session.history (workspace.perform mutation record) := by
  cases hchange : mutation.change diagram with
  | error refusal =>
      have hmissing := (Mutation.harmless_of_change_eq_error h.loaded hchange).missing
      rw [perform_of_refusal record h.loaded hchange]
      refine h.answers hdistinct fun failure hsame => ?_
      rw [Except.error.inj hsame] at hmissing
      exact hmissing
  | ok change =>
      have hcarries : Carries (fun before => before = diagram) (fun _ => True)
          fun workspace => workspace.perform mutation record := by
        refine carries_perform record fun before _ hbefore => ?_
        subst hbefore
        exact ⟨change, hchange, hnew, fun _ => trivial⟩
      obtain ⟨hok, hhistory, next, hnext, hnextDistinct, -⟩ :=
        hcarries workspace diagram h hdistinct rfl
      refine ⟨?_, hhistory, next, hnext, hnextDistinct⟩
      rw [hok]
      exact served_ok ()

theorem InStep.answers_performFor {α : Type} (h : workspace.InStep diagram)
    (hdistinct : diagram.Distinct) {mutation : Mutation κ} (hnew : mutation.BringsNew diagram)
    (count : Nat) (entity : α) :
    AnswersInStep workspace.session.history
      (forget (workspace.performFor count mutation entity)) := by
  have hdrawn : (workspace.withSession (workspace.session.draw count)).InStep diagram :=
    h.of_session rfl
  exact (hdrawn.answers_perform hdistinct hnew true).forget fun _ => entity

/-! ## Entities made by the session -/

theorem InStep.answers_createTable [Coordinate κ] (h : workspace.InStep diagram)
    (hdistinct : diagram.Distinct)
    (hspared : diagram.Spares (workspace.session.supply.get 0).id)
    (attributes : TablePatch κ) :
    AnswersInStep workspace.session.history (forget (workspace.createTable attributes)) := by
  apply h.answers_performFor hdistinct
  exact Diagram.nodup_map_concat hdistinct.tables (Diagram.table?_eq_none_iff.mp hspared.table)

theorem InStep.answers_createField (h : workspace.InStep diagram)
    (hdistinct : diagram.Distinct) (tableId : Identifier) :
    AnswersInStep workspace.session.history (forget (workspace.createField tableId)) := by
  unfold createField
  dsimp only
  split
  · exact h.answers hdistinct fun _ hsame => by cases hsame
  · apply h.answers_performFor hdistinct
    exact trivial

theorem InStep.answers_createIndex (h : workspace.InStep diagram)
    (hdistinct : diagram.Distinct) (tableId : Identifier) :
    AnswersInStep workspace.session.history (forget (workspace.createIndex tableId)) := by
  unfold createIndex
  dsimp only
  split
  · exact h.answers hdistinct fun _ hsame => by cases hsame
  · apply h.answers_performFor hdistinct
    exact trivial

theorem served_endAt (session : Session κ) (tableId fieldId : Identifier) :
    Served (endAt session tableId fieldId) :=
  served_orRefuse_bind (fun _ h => by cases h) fun _ =>
    served_orRefuse_bind (fun _ h => by cases h) fun _ => served_ok _

theorem served_bind {α β : Type} {result : Except SessionError α}
    {next : α → Except SessionError β} (h : Served result) (hnext : ∀ x, Served (next x)) :
    Served (result >>= next) := by
  cases result with
  | ok value => exact hnext value
  | error error => exact fun failure hsame => h failure (congrArg _ (Except.error.inj hsame))

/-- Looking up the ends of a relationship never fails in the storage. -/
theorem served_ends (session : Session κ) (source target : Identifier × Identifier) :
    Served (do
      let (sourceEnd, tableName, fieldName) ← endAt session source.1 source.2
      let (targetEnd, _, _) ← endAt session target.1 target.2
      return (sourceEnd, targetEnd, tableName ++ "_" ++ fieldName ++ "_fk")) :=
  served_bind (served_endAt _ _ _) fun _ => served_bind (served_endAt _ _ _) fun _ =>
    served_ok _

theorem InStep.answers_createRelationship (h : workspace.InStep diagram)
    (hdistinct : diagram.Distinct)
    (hspared : diagram.Spares (workspace.session.supply.get 0).id)
    (source target : Identifier × Identifier) :
    AnswersInStep workspace.session.history
      (forget (workspace.createRelationship source target)) := by
  unfold createRelationship
  dsimp only
  split
  · next error herror =>
      refine h.answers hdistinct (served_map ?_ _)
      intro failure hsame
      obtain rfl := Except.error.inj hsame
      exact served_ends _ source target failure herror
  · apply h.answers_performFor hdistinct
    exact Diagram.nodup_map_concat hdistinct.relationships
      (Diagram.relationship?_eq_none_iff.mp hspared.relationship)

theorem InStep.answers_createDependency (h : workspace.InStep diagram)
    (hdistinct : diagram.Distinct)
    (hspared : diagram.Spares (workspace.session.supply.get 0).id)
    (tableId dependentTableId : Identifier) :
    AnswersInStep workspace.session.history
      (forget (workspace.createDependency tableId dependentTableId)) := by
  unfold createDependency
  dsimp only
  split
  · next error herror =>
      refine h.answers hdistinct (served_map ?_ _)
      intro failure hsame
      obtain rfl := Except.error.inj hsame
      refine served_orRefuse_bind ?_ (fun _ => served_orRefuse_bind ?_ fun _ => served_ok _)
        failure herror <;> exact fun _ h => by cases h
  · apply h.answers_performFor hdistinct
    exact Diagram.nodup_map_concat hdistinct.dependencies
      (Diagram.dependency?_eq_none_iff.mp hspared.dependency)

/-! ## Texts -/

theorem InStep.answers_applyText [Coordinate κ] (h : workspace.InStep diagram)
    (hdistinct : diagram.Distinct) {text : String}
    (hspared : ∀ id ∈ (planFor workspace.session text).1.createdIds, diagram.Spares id)
    (hcreated : (planFor workspace.session text).1.createdIds.Nodup) :
    AnswersInStep workspace.session.history (forget (workspace.applyText text)) := by
  have hread := SchemaText.asRead_parse workspace.session.dialect text
  have hfits : (planFor workspace.session text).1.Fits diagram.tables diagram.relationships := by
    rw [planFor_of_loaded h.loaded]
    exact reconcile_fits hread hdistinct.tables hdistinct.relationships workspace.session.supply
  have hdrawn : (workspace.withSession (planFor workspace.session text).2).InStep diagram :=
    h.of_session rfl
  obtain ⟨hok, hhistory, after, hafter, hafterDistinct⟩ :=
    hdrawn.applyPlan hdistinct hfits (Plan.new_of_spares hdistinct hcreated hspared) true
  rw [applyText_of_loaded h.loaded]
  apply AnswersInStep.forget
  refine ⟨?_, hhistory, after, hafter, hafterDistinct⟩
  rw [hok]
  exact served_ok ()

/-- Every edit that puts in new entities is carried out in step. -/
theorem InStep.answerTo [Coordinate κ] (h : workspace.InStep diagram)
    (hdistinct : diagram.Distinct) {edit : Edit κ} (hnew : edit.New workspace.session) :
    AnswersInStep workspace.session.history (workspace.answerTo edit) := by
  have hone : (∀ diagram, workspace.session.diagram? = some diagram →
      ∀ id ∈ [(workspace.session.supply.get 0).id], diagram.Spares id) →
      diagram.Spares (workspace.session.supply.get 0).id :=
    fun hspared => hspared diagram h.loaded _ (List.mem_singleton_self _)
  cases edit with
  | mutate mutation =>
      exact h.answers_perform hdistinct (hnew.passed mutation rfl diagram h.loaded) true
  | createTable attributes => exact h.answers_createTable hdistinct (hone hnew.sound) attributes
  | createField tableId => exact h.answers_createField hdistinct tableId
  | createIndex tableId => exact h.answers_createIndex hdistinct tableId
  | createRelationship source target =>
      exact h.answers_createRelationship hdistinct (hone hnew.sound) source target
  | createDependency tableId dependentTableId =>
      exact h.answers_createDependency hdistinct (hone hnew.sound) tableId dependentTableId
  | applyText text =>
      exact h.answers_applyText hdistinct (hnew.sound diagram h.loaded) hnew.made

end Workspace

end SchemaDiagram
