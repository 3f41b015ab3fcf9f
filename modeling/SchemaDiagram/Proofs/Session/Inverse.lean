import SchemaDiagram.Proofs.Positioned
import SchemaDiagram.Session.Replay

/-!
# Steps and their inverses

A step recorded by a mutation connects the diagram before it with the diagram after it: its undoing
mutations lead back and its redoing mutation leads forth again, list orders included.  The time of
the last update is left open here, since replaying a step sets it anew.
-/

namespace SchemaDiagram

variable {κ : Type}

/-! ## The time of the last update -/

/-- A diagram as if it had last been updated at another time. -/
def Diagram.touched (diagram : Diagram κ) (time : Timestamp) : Diagram κ :=
  { diagram with updatedAt := time }

@[simp] theorem Diagram.touched_touched (diagram : Diagram κ) (first second : Timestamp) :
    (diagram.touched first).touched second = diagram.touched second := rfl

@[simp] theorem Diagram.updatedAt_touched (diagram : Diagram κ) (time : Timestamp) :
    (diagram.touched time).updatedAt = time := rfl

@[simp] theorem Diagram.tables_touched (diagram : Diagram κ) (time : Timestamp) :
    (diagram.touched time).tables = diagram.tables := rfl

@[simp] theorem Diagram.relationships_touched (diagram : Diagram κ) (time : Timestamp) :
    (diagram.touched time).relationships = diagram.relationships := rfl

@[simp] theorem Diagram.dependencies_touched (diagram : Diagram κ) (time : Timestamp) :
    (diagram.touched time).dependencies = diagram.dependencies := rfl

@[simp] theorem Diagram.table?_touched (diagram : Diagram κ) (time : Timestamp)
    (id : Identifier) : (diagram.touched time).table? id = diagram.table? id := rfl

/-- A diagram with another dialect and as if it had last been updated at another time. -/
def Diagram.relabel (diagram : Diagram κ) (dialect : Dialect → Dialect)
    (time : Timestamp → Timestamp) : Diagram κ :=
  { diagram with dialect := dialect diagram.dialect, updatedAt := time diagram.updatedAt }

@[simp] theorem Diagram.tables_relabel (diagram : Diagram κ) (dialect : Dialect → Dialect)
    (time : Timestamp → Timestamp) : (diagram.relabel dialect time).tables = diagram.tables := rfl

@[simp] theorem Diagram.relationships_relabel (diagram : Diagram κ)
    (dialect : Dialect → Dialect) (time : Timestamp → Timestamp) :
    (diagram.relabel dialect time).relationships = diagram.relationships := rfl

@[simp] theorem Diagram.dependencies_relabel (diagram : Diagram κ)
    (dialect : Dialect → Dialect) (time : Timestamp → Timestamp) :
    (diagram.relabel dialect time).dependencies = diagram.dependencies := rfl

@[simp] theorem Diagram.table?_relabel (diagram : Diagram κ) (dialect : Dialect → Dialect)
    (time : Timestamp → Timestamp) (id : Identifier) :
    (diagram.relabel dialect time).table? id = diagram.table? id := rfl

/-- A change to the same content with another dialect, last updated at another time. -/
def Change.relabel (change : Change κ) (dialect : Dialect → Dialect)
    (time : Timestamp → Timestamp) : Change κ :=
  { change with diagram := change.diagram.relabel dialect time }

/-- A refusal that leaves the same content with another dialect, last updated at another time. -/
def Refusal.relabel (refusal : Refusal κ) (dialect : Dialect → Dialect)
    (time : Timestamp → Timestamp) : Refusal κ :=
  { refusal with diagram := refusal.diagram.relabel dialect time }

/-- A look-up does not depend on the dialect and the time of the last update if neither its refusal
nor what is done with its answer does. -/
theorem Mutation.orRefuse_bind_relabel {α : Type} {dialect : Dialect → Dialect}
    {time : Timestamp → Timestamp} {refusal relabelled : Refusal κ} {value : Option α}
    {next after : α → Except (Refusal κ) (Change κ)}
    (hrefusal : relabelled = refusal.relabel dialect time)
    (hnext : ∀ x, after x = ((next x).map fun change => change.relabel dialect time).mapError
      fun refusal => refusal.relabel dialect time) :
    (orRefuse relabelled value >>= after) =
      ((orRefuse refusal value >>= next).map fun change => change.relabel dialect time).mapError
        fun refusal => refusal.relabel dialect time := by
  cases value with
  | none => exact congrArg Except.error hrefusal
  | some x => exact hnext x

/-- No mutation looks at the dialect or at the time of the last update. -/
theorem Mutation.change_relabel (mutation : Mutation κ) (diagram : Diagram κ)
    (dialect : Dialect → Dialect) (time : Timestamp → Timestamp) :
    mutation.change (diagram.relabel dialect time) =
      ((mutation.change diagram).map fun change => change.relabel dialect time).mapError
        fun refusal => refusal.relabel dialect time := by
  cases mutation with
  | removeTables ids =>
      simp only [Mutation.change, removeTablesChange, Diagram.tables_relabel]
      split <;> rfl
  | removeRelationships ids =>
      simp only [Mutation.change, removeRelationshipsChange, Diagram.relationships_relabel]
      split <;> rfl
  | removeDependencies ids =>
      simp only [Mutation.change, removeDependenciesChange, Diagram.dependencies_relabel]
      split <;> rfl
  | updateTable | insertField | insertIndex | updateRelationship | updateDependency =>
      exact orRefuse_bind_relabel rfl fun _ => rfl
  | updateField | removeField | updateIndex | removeIndex =>
      exact orRefuse_bind_relabel rfl fun _ => orRefuse_bind_relabel rfl fun _ => rfl
  | _ => rfl

/-! ## Leading from one diagram to another -/

namespace Mutation

/-- A mutation leads from one diagram to another. -/
def Leads (mutation : Mutation κ) (before after : Diagram κ) : Prop :=
  ∃ change, mutation.change before = .ok change ∧ change.diagram = after

/-- Mutations lead from one diagram to another if carried out in order. -/
def LeadsAll : List (Mutation κ) → Diagram κ → Diagram κ → Prop
  | [], before, after => before = after
  | mutation :: rest, before, after =>
    ∃ between, mutation.Leads before between ∧ LeadsAll rest between after

theorem Leads.relabel {mutation : Mutation κ} {before after : Diagram κ}
    (h : mutation.Leads before after) (dialect : Dialect → Dialect)
    (time : Timestamp → Timestamp) :
    mutation.Leads (before.relabel dialect time) (after.relabel dialect time) := by
  obtain ⟨change, hchange, rfl⟩ := h
  refine ⟨change.relabel dialect time, ?_, rfl⟩
  rw [change_relabel, hchange]
  rfl

theorem Leads.touched {mutation : Mutation κ} {before after : Diagram κ}
    (h : mutation.Leads before after) (time : Timestamp) :
    mutation.Leads (before.touched time) (after.touched time) :=
  h.relabel id fun _ => time

theorem LeadsAll.relabel {mutations : List (Mutation κ)} {before after : Diagram κ}
    (h : LeadsAll mutations before after) (dialect : Dialect → Dialect)
    (time : Timestamp → Timestamp) :
    LeadsAll mutations (before.relabel dialect time) (after.relabel dialect time) := by
  induction mutations generalizing before with
  | nil => exact congrArg (fun diagram => diagram.relabel dialect time) h
  | cons mutation rest ih =>
      obtain ⟨between, hfirst, hrest⟩ := h
      exact ⟨between.relabel dialect time, hfirst.relabel dialect time, ih hrest⟩

theorem LeadsAll.touched {mutations : List (Mutation κ)} {before after : Diagram κ}
    (h : LeadsAll mutations before after) (time : Timestamp) :
    LeadsAll mutations (before.touched time) (after.touched time) :=
  h.relabel id fun _ => time

theorem LeadsAll.single {mutation : Mutation κ} {before after : Diagram κ}
    (h : mutation.Leads before after) : LeadsAll [mutation] before after :=
  ⟨after, h, rfl⟩

end Mutation

/-- A step connects two diagrams: undoing it leads from the second to the first one, and redoing it
from the first to the second, whatever the time of the last update. -/
structure Step.Connects (step : Step κ) (before after : Diagram κ) : Prop where
  back : ∀ time, Mutation.LeadsAll step.undo (after.touched time) (before.touched time)
  forth : ∀ time, step.redo.Leads (before.touched time) (after.touched time)

theorem Step.Connects.of_leads {step : Step κ} {before after : Diagram κ}
    (hback : Mutation.LeadsAll step.undo after before) (hforth : step.redo.Leads before after) :
    step.Connects before after :=
  ⟨fun time => hback.touched time, fun time => hforth.touched time⟩

/-! ## Links at tables -/

/-- No relationship and no dependency stands at a table with this identifier. -/
def Diagram.Unlinked (diagram : Diagram κ) (id : Identifier) : Prop :=
  (∀ relationship ∈ diagram.relationships, relationship.touchesAny [id] = false) ∧
    ∀ dependency ∈ diagram.dependencies, dependency.touchesAny [id] = false

namespace Mutation

theorem detachLinks_eq (diagram : Diagram κ) (ids : List Identifier) :
    detachLinks diagram ids =
      (⟨(takePositioned (fun relationship => relationship.touchesAny ids)
          diagram.relationships).1,
        (takePositioned (fun dependency => dependency.touchesAny ids)
          diagram.dependencies).1⟩,
      { diagram with
        relationships := (takePositioned (fun relationship => relationship.touchesAny ids)
          diagram.relationships).2
        dependencies := (takePositioned (fun dependency => dependency.touchesAny ids)
          diagram.dependencies).2 }) := rfl

/-- Nothing is detached from tables without links. -/
theorem detachLinks_of_unlinked {diagram : Diagram κ} {ids : List Identifier}
    (h : ∀ id ∈ ids, diagram.Unlinked id) :
    detachLinks diagram ids = (⟨[], []⟩, diagram) := by
  have hrelationships : ∀ relationship ∈ diagram.relationships,
      relationship.touchesAny ids = false := by
    intro relationship hmem
    simp only [Relationship.touchesAny, Bool.or_eq_false_iff, List.contains_eq_mem,
      decide_eq_false_iff_not]
    constructor
    · intro hid
      simpa [Relationship.touchesAny] using (h _ hid).1 relationship hmem
    · intro hid
      simpa [Relationship.touchesAny] using (h _ hid).1 relationship hmem
  have hdependencies : ∀ dependency ∈ diagram.dependencies,
      dependency.touchesAny ids = false := by
    intro dependency hmem
    simp only [Dependency.touchesAny, Bool.or_eq_false_iff, List.contains_eq_mem,
      decide_eq_false_iff_not]
    constructor
    · intro hid
      simpa [Dependency.touchesAny] using (h _ hid).2 dependency hmem
    · intro hid
      simpa [Dependency.touchesAny] using (h _ hid).2 dependency hmem
  rw [detachLinks_eq, takePositioned_of_none hrelationships,
    takePositioned_of_none hdependencies]

/-- Detached links are put back at their places, whatever has become of the tables. -/
theorem restore_leads (diagram after : Diagram κ) (ids : List Identifier)
    (hrelationships : after.relationships = (detachLinks diagram ids).2.relationships)
    (hdependencies : after.dependencies = (detachLinks diagram ids).2.dependencies) :
    LeadsAll (detachLinks diagram ids).1.restore after
      { after with
        relationships := diagram.relationships
        dependencies := diagram.dependencies } := by
  rw [detachLinks_eq] at hrelationships hdependencies ⊢
  dsimp only at hrelationships hdependencies ⊢
  -- An empty list of links has no mutation of its own: then nothing was detached.
  have hfirst : ∀ rest target,
      LeadsAll rest { after with relationships := diagram.relationships } target →
        LeadsAll ((if (takePositioned (fun relationship => relationship.touchesAny ids)
            diagram.relationships).1.isEmpty then []
          else [.insertRelationships (takePositioned
            (fun relationship => relationship.touchesAny ids) diagram.relationships).1]) ++ rest)
          after target := by
    intro rest target hrest
    have hback := insertPositioned_takePositioned
      (fun relationship => Relationship.touchesAny relationship ids) diagram.relationships
    split
    · next hempty =>
        rw [List.isEmpty_iff] at hempty
        rw [hempty, ← hrelationships] at hback
        rw [← hback] at hrest
        exact hrest
    · refine ⟨_, ⟨_, rfl, rfl⟩, ?_⟩
      simp only [insertRelationshipsChange]
      rw [hrelationships, hback]
      exact hrest
  apply hfirst
  have hback := insertPositioned_takePositioned
    (fun dependency => Dependency.touchesAny dependency ids) diagram.dependencies
  split
  · next hempty =>
      rw [List.isEmpty_iff] at hempty
      dsimp only at hempty
      rw [hempty, ← hdependencies] at hback
      rw [← hback]
      rfl
  · refine ⟨_, ⟨_, rfl, rfl⟩, ?_⟩
    simp only [insertDependenciesChange]
    rw [hdependencies, hback]
    rfl

end Mutation

end SchemaDiagram
