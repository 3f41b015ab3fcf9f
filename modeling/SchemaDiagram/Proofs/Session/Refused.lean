import SchemaDiagram.Proofs.Session.Alike
import SchemaDiagram.Proofs.Session.Reached

/-!
# Refused operations

An operation is refused when something that it names is not there, and then it has no effect: what
the refusal reports as missing is missing, nothing is announced, recorded or written, and of the
session only stamps are used up.  For mutations this rests on the diagram that a refusal leaves, and
a diagram that is to be deleted is unloaded before it is known to be there.  Plans and replays run
several operations and go on when one of them is refused, so they are left out.
-/

namespace SchemaDiagram

variable {σ κ α β : Type}

namespace Workspace

/-- If an answer is a refusal, then what it names is missing, and of the workspace only stamps are
used up. -/
def UnharmedBy (workspace : Workspace σ κ) (answer : Answer σ κ α) : Prop :=
  ∀ error, answer.1 = .error error → error.IsRefusal → error.Missing workspace.session ∧
    ∃ count, answer.2 = workspace.withSession (workspace.session.draw count)

section

variable {workspace : Workspace σ κ} {answer : Answer σ κ α}

theorem unharmedBy_refusal {error : SessionError} (h : error.Missing workspace.session) :
    workspace.UnharmedBy ((.error error, workspace) : Answer σ κ α) := by
  intro other hother _
  obtain rfl := Except.error.inj hother
  exact ⟨h, 0, rfl⟩

/-- What succeeds or fails in the storage is no refusal. -/
theorem unharmedBy_of_served (h : ∀ error, answer.1 = .error error → ¬error.IsRefusal) :
    workspace.UnharmedBy answer :=
  fun error herror hrefusal => absurd hrefusal (h error herror)

theorem UnharmedBy.map (h : workspace.UnharmedBy answer) (f : α → β) :
    workspace.UnharmedBy ((answer.1.map f, answer.2) : Answer σ κ β) := by
  intro error herror
  cases hresult : answer.1 with
  | error refusal =>
      rw [hresult] at herror
      obtain rfl := Except.error.inj herror
      exact h _ hresult
  | ok value =>
      rw [hresult] at herror
      cases herror

/-- Drawing stamps beforehand does no harm. -/
theorem UnharmedBy.of_draw {count : Nat}
    (h : (workspace.withSession (workspace.session.draw count)).UnharmedBy answer) :
    workspace.UnharmedBy answer := by
  intro error herror hrefusal
  obtain ⟨hmissing, more, hafter⟩ := h error herror hrefusal
  refine ⟨hmissing, count + more, ?_⟩
  rw [hafter]
  simp [withSession, Session.draw]

end

variable [Storage σ κ] (workspace : Workspace σ κ)

theorem not_isRefusal_writeAll (writes : List (Write κ)) {error : SessionError}
    (h : (workspace.writeAll writes).1 = .error error) : ¬error.IsRefusal := by
  rcases workspace.writeAll_result writes with hok | ⟨failure, hfailure⟩
  · rw [hok] at h
    cases h
  · rw [hfailure] at h
    obtain rfl := Except.error.inj h
    exact id

theorem unharmedBy_perform (mutation : Mutation κ) (record : Bool) :
    workspace.UnharmedBy (workspace.perform mutation record) := by
  cases hloaded : workspace.session.diagram? with
  | none =>
      rw [perform_of_unloaded mutation record hloaded]
      exact unharmedBy_refusal hloaded
  | some diagram =>
      cases hchange : mutation.change diagram with
      | error refusal =>
          rw [perform_of_refusal record hloaded hchange]
          exact unharmedBy_refusal (Mutation.harmless_of_change_eq_error hloaded hchange).missing
      | ok change =>
          rw [perform_of_change record hloaded hchange]
          exact unharmedBy_of_served fun _ => not_isRefusal_writeAll _ _

theorem unharmedBy_performFor (count : Nat) (mutation : Mutation κ) (entity : α) :
    workspace.UnharmedBy (workspace.performFor count mutation entity) :=
  ((unharmedBy_perform _ mutation true).map fun _ => entity).of_draw

theorem unharmedBy_createField (tableId : Identifier) :
    workspace.UnharmedBy (workspace.createField tableId) := by
  unfold createField
  dsimp only
  split
  · next hnone => exact unharmedBy_refusal hnone
  · exact unharmedBy_performFor workspace _ _ _

theorem unharmedBy_createIndex (tableId : Identifier) :
    workspace.UnharmedBy (workspace.createIndex tableId) := by
  unfold createIndex
  dsimp only
  split
  · next hnone => exact unharmedBy_refusal hnone
  · exact unharmedBy_performFor workspace _ _ _

omit [Storage σ κ] in
theorem missing_of_endAt {session : Session κ} {tableId fieldId : Identifier}
    {error : SessionError} (h : endAt session tableId fieldId = .error error) :
    error.Missing session := by
  obtain ⟨hnone, rfl⟩ | ⟨table, hfound, hfield⟩ := Mutation.orRefuse_bind_eq_error_iff.mp h
  · exact hnone
  · obtain ⟨hnone, rfl⟩ | ⟨_, -, hok⟩ := Mutation.orRefuse_bind_eq_error_iff.mp hfield
    · exact ⟨table, hfound, hnone⟩
    · cases hok

theorem unharmedBy_createRelationship (source target : Identifier × Identifier) :
    workspace.UnharmedBy (workspace.createRelationship source target) := by
  unfold createRelationship
  dsimp only
  cases hsource : endAt workspace.session source.1 source.2 with
  | error error => exact unharmedBy_refusal (missing_of_endAt hsource)
  | ok first =>
      cases htarget : endAt workspace.session target.1 target.2 with
      | error error => exact unharmedBy_refusal (missing_of_endAt htarget)
      | ok second => exact unharmedBy_performFor workspace _ _ _

theorem unharmedBy_createDependency (tableId dependentTableId : Identifier) :
    workspace.UnharmedBy (workspace.createDependency tableId dependentTableId) := by
  unfold createDependency
  dsimp only
  cases htable : workspace.session.table? tableId with
  | none => exact unharmedBy_refusal htable
  | some table =>
      cases hdependent : workspace.session.table? dependentTableId with
      | none => exact unharmedBy_refusal hdependent
      | some dependent => exact unharmedBy_performFor workspace _ _ _

theorem unharmedBy_setDialect (dialect : Dialect) :
    workspace.UnharmedBy (workspace.setDialect dialect) := by
  unfold setDialect
  split
  · next hnone => exact unharmedBy_refusal hnone
  · exact unharmedBy_of_served fun _ => not_isRefusal_writeAll _ _

theorem unharmedBy_clearDiagram : workspace.UnharmedBy workspace.clearDiagram := by
  unfold clearDiagram
  split
  · next hnone => exact unharmedBy_refusal hnone
  · exact unharmedBy_of_served fun _ => not_isRefusal_writeAll _ _

theorem unharmedBy_deleteDiagram : workspace.UnharmedBy workspace.deleteDiagram := by
  unfold deleteDiagram
  split
  · next hnone =>
    rw [← hnone]
    exact unharmedBy_refusal hnone
  · dsimp only
    split
    · next failure emptied hfailed =>
        apply unharmedBy_of_served
        intro error herror
        obtain rfl := Except.error.inj herror
        exact not_isRefusal_writeAll _ _ (congrArg Prod.fst hfailed)
    · exact unharmedBy_of_served fun _ => not_isRefusal_writeAll _ _

theorem unharmedBy_listDiagrams :
    workspace.UnharmedBy ((workspace.listDiagrams, workspace) : Answer σ κ _) := by
  apply unharmedBy_of_served
  intro error herror
  dsimp only at herror
  unfold listDiagrams at herror
  cases hresult : Storage.listDiagrams workspace.storage with
  | error failure =>
      rw [hresult] at herror
      obtain rfl := Except.error.inj herror
      exact id
  | ok summaries =>
      rw [hresult] at herror
      cases herror

theorem unharmedBy_createDiagram (name : String) (dialect : Option Dialect) :
    workspace.UnharmedBy (workspace.createDiagram name dialect) := by
  apply unharmedBy_of_served
  intro error herror
  simp only [createDiagram] at herror
  split at herror
  · next failure written hfailed =>
      obtain rfl := Except.error.inj herror
      exact not_isRefusal_writeAll _ _ (congrArg Prod.fst hfailed)
  · cases herror

theorem unharmedBy_loadDiagram (id : Identifier) :
    workspace.UnharmedBy (workspace.loadDiagram id) := by
  apply unharmedBy_of_served
  intro error herror
  simp only [loadDiagram] at herror
  split at herror
  · obtain rfl := Except.error.inj herror
    exact not_false
  · cases herror

end Workspace

/-! ## All requests -/

/-- What can be asked of a session: operations on the loaded diagram, and those that find one. -/
inductive Workspace.Request (κ : Type) : Type → Type 1
  | listDiagrams : Workspace.Request κ (List DiagramSummary)
  | createDiagram (name : String) (dialect : Option Dialect) : Workspace.Request κ (Diagram κ)
  | loadDiagram (id : Identifier) : Workspace.Request κ (Diagram κ)
  | operate {α : Type} (operation : Operation κ α) : Workspace.Request κ α

namespace Workspace.Request

def run [Coordinate κ] [Storage σ κ] (workspace : Workspace σ κ) :
    Request κ α → Answer σ κ α
  | listDiagrams => (workspace.listDiagrams, workspace)
  | createDiagram name dialect => workspace.createDiagram name dialect
  | loadDiagram id => workspace.loadDiagram id
  | operate operation => operation.run workspace

/-- The request is a single one: it neither carries out a plan nor replays a command. -/
def Single : Request κ α → Prop
  | operate (.applyText _) => False
  | operate (.applyPlan _ _) => False
  | operate .redo => False
  | _ => True

/-- The request makes another diagram the loaded one. -/
def Loads : Request κ α → Prop
  | createDiagram _ _ => True
  | loadDiagram _ => True
  | _ => False

variable [Coordinate κ] [Storage σ κ]

open Workspace

theorem unharmedBy_run (workspace : Workspace σ κ) {request : Request κ α}
    (hsingle : request.Single) : workspace.UnharmedBy (request.run workspace) := by
  cases request with
  | listDiagrams => exact unharmedBy_listDiagrams workspace
  | createDiagram name dialect => exact unharmedBy_createDiagram workspace name dialect
  | loadDiagram id => exact unharmedBy_loadDiagram workspace id
  | operate operation =>
      cases operation with
      | mutate mutation record => exact unharmedBy_perform workspace mutation record
      | createTable attributes => exact unharmedBy_performFor workspace _ _ _
      | createField tableId => exact unharmedBy_createField workspace tableId
      | createIndex tableId => exact unharmedBy_createIndex workspace tableId
      | createRelationship source target =>
          exact unharmedBy_createRelationship workspace source target
      | createDependency tableId dependentTableId =>
          exact unharmedBy_createDependency workspace tableId dependentTableId
      | applyText text => exact hsingle.elim
      | applyPlan plan record => exact hsingle.elim
      | setDialect dialect => exact unharmedBy_setDialect workspace dialect
      | filterSchemas ids => exact unharmedBy_of_served fun _ herror => nomatch herror
      | clearDiagram => exact unharmedBy_clearDiagram workspace
      | deleteDiagram => exact unharmedBy_deleteDiagram workspace
      | redo => exact hsingle.elim

/-- A diagram that is not found or not stored is not loaded either. -/
theorem session_of_loads (workspace : Workspace σ κ) {request : Request κ α}
    (hloads : request.Loads) {error : SessionError}
    (h : (request.run workspace).1 = .error error) :
    ∃ count, (request.run workspace).2.session = workspace.session.draw count := by
  cases request with
  | listDiagrams => exact hloads.elim
  | createDiagram name dialect =>
      simp only [run, Workspace.createDiagram] at h ⊢
      split at h
      · next failure written hfailed =>
          exact ⟨1, congrArg (fun answer => answer.2.session) hfailed.symm⟩
      · cases h
  | loadDiagram id =>
      simp only [run, Workspace.loadDiagram] at h ⊢
      split at h
      · next failure hfailed =>
          exact ⟨0, rfl⟩
      · cases h
  | operate operation => exact hloads.elim

/-- A single request that is refused has no effect: what the refusal names is missing, and of the
workspace only stamps are used up.  A diagram that cannot be stored or read is not loaded. -/
theorem run_of_error (workspace : Workspace σ κ) (request : Request κ α)
    (hsingle : request.Single) {error : SessionError}
    (h : (request.run workspace).1 = .error error) :
    (error.IsRefusal → error.Missing workspace.session ∧ ∃ count,
        (request.run workspace).2 = workspace.withSession (workspace.session.draw count)) ∧
      (request.Loads → ∃ count,
        (request.run workspace).2.session = workspace.session.draw count) :=
  ⟨unharmedBy_run workspace hsingle error h, fun hloads => session_of_loads workspace hloads h⟩

/-- Where there is another table, the removal of one that is not there is refused, and a diagram
that is not stored is not loaded. -/
theorem opened_refuses :
    ((openedTable.run opened).session.table? (Identifier.ofNat 5) = none ∧ ∃ count,
      (Request.run (openedTable.run opened)
        (.operate (.mutate (.removeTables [Identifier.ofNat 5]) true))).2 =
          (openedTable.run opened).withSession ((openedTable.run opened).session.draw count)) ∧
    ∃ count, (Request.run opened (.loadDiagram (Identifier.ofNat 9))).2.session =
      opened.session.draw count := by
  have hrefused : (Request.run (openedTable.run opened)
      (.operate (.mutate (.removeTables [Identifier.ofNat 5]) true))).1 =
        .error (.tableNotFound (Identifier.ofNat 5)) := rfl
  have hfailed : (Request.run opened (.loadDiagram (Identifier.ofNat 9))).1 =
      .error (.storage (.diagramNotFound (Identifier.ofNat 9))) := rfl
  constructor
  · exact (run_of_error (openedTable.run opened)
      (.operate (.mutate (.removeTables [Identifier.ofNat 5]) true)) trivial hrefused).1 trivial
  · exact (run_of_error opened (.loadDiagram (Identifier.ofNat 9)) trivial hfailed).2 trivial

end Workspace.Request

end SchemaDiagram
