import SchemaDiagram.Proofs.Storage.Mirror
import SchemaDiagram.Storage.Document

/-!
# Requests are atomic and local

A request to a storage in memory that fails changes nothing: a deletion that finds afterwards that
the list is as long as before has put back the same list.  A request that succeeds leaves the other
diagrams alone, and a write within a diagram leaves alone what it is not addressed to: the other
entities of the same kind with their order, the other lists, and the attributes that are not given.
-/

namespace SchemaDiagram

variable {κ α : Type}

/-! ## What a write is addressed to -/

/-- The part of a diagram that a write is addressed to. -/
inductive Scope where
  | attributes (update : DiagramUpdate)
  | tables
  | relationships
  | dependencies
  | table (id : Identifier)
  | relationship (id : Identifier)
  | dependency (id : Identifier)

/-- What a diagram holds outside of a scope; what lies within is blanked out. -/
def Scope.outside (diagram : Diagram κ) : Scope → Diagram κ
  | attributes update =>
    diagram.applyUpdate {
      name := update.name.map fun _ => ""
      dialect := update.dialect.map fun _ => .generic
      updatedAt := update.updatedAt.map fun _ => default }
  | tables => { diagram with tables := [] }
  | relationships => { diagram with relationships := [] }
  | dependencies => { diagram with dependencies := [] }
  | table id => { diagram with tables := diagram.tables.filter fun table => table.id != id }
  | relationship id => { diagram with
      relationships := diagram.relationships.filter fun relationship => relationship.id != id }
  | dependency id => { diagram with
      dependencies := diagram.dependencies.filter fun dependency => dependency.id != id }

namespace DiagramWrite

def scope : DiagramWrite κ → Scope
  | updateDiagram update => .attributes update
  | clearTables => .tables
  | clearRelationships => .relationships
  | clearDependencies => .dependencies
  | addTable table => .table table.id
  | putTable table => .table table.id
  | updateTable id _ => .table id
  | deleteTable id => .table id
  | addRelationship relationship => .relationship relationship.id
  | updateRelationship id _ => .relationship id
  | deleteRelationship id => .relationship id
  | addDependency dependency => .dependency dependency.id
  | updateDependency id _ => .dependency id
  | deleteDependency id => .dependency id

section Items

variable (key : α → Identifier) {id : Identifier} {items after : List α}

/-- Items with other keys stay where they are when the first item with a key is changed. -/
theorem filter_updateFirst {change : α → α} (hkey : ∀ item, key item = id → key (change item) = id)
    (items : List α) :
    (updateFirst (fun item => key item == id) change items).filter (fun item => key item != id) =
      items.filter fun item => key item != id := by
  induction items with
  | nil => rfl
  | cons first rest ih =>
      rw [updateFirst]
      split
      · next hfirst =>
        have hsame := beq_iff_eq.mp hfirst
        simp [hsame, hkey first hsame]
      · next hfirst => simp [List.filter_cons, ih]

theorem filter_changeFirst (error : StorageError) {change : α → α}
    (hkey : ∀ item, key (change item) = key item) (id : Identifier) (items : List α) :
    (changeFirst error (fun item => key item == id) change items).2.filter
        (fun item => key item != id) = items.filter fun item => key item != id := by
  unfold changeFirst
  split
  · exact filter_updateFirst key (fun item hitem => (hkey item).trans hitem) items
  · rfl

theorem filter_removeAll (error : StorageError) (id : Identifier) (items : List α) :
    (removeAll error (fun item => key item == id) items).2.filter (fun item => key item != id) =
      items.filter fun item => key item != id := by
  rw [removeAll, List.filter_filter]
  simp [bne]

theorem filter_concat (item : α) (items : List α) :
    (items ++ [item]).filter (fun other => key other != key item) =
      items.filter fun other => key other != key item := by
  simp

end Items

/-- Whether or not it succeeds, a write leaves alone what lies outside of its scope. -/
theorem outside_apply (write : DiagramWrite κ) (diagram : Diagram κ) :
    write.scope.outside (write.apply diagram).2 = write.scope.outside diagram := by
  cases write with
  | updateTable id patch =>
      have hothers := filter_changeFirst Table.id (.entityNotFound .table id)
        (fun table => Table.id_apply table patch) id diagram.tables
      simp only [scope, Scope.outside, apply, hothers]
  | deleteTable id =>
      simp only [scope, Scope.outside, apply, filter_removeAll Table.id]
  | putTable table =>
      simp only [scope, Scope.outside, apply]
      split
      · rw [filter_updateFirst Table.id (fun _ _ => rfl)]
      · rw [filter_concat Table.id]
  | addTable table =>
      simp only [scope, Scope.outside, apply, filter_concat Table.id]
  | updateRelationship id patch =>
      have hothers := filter_changeFirst Relationship.id (.entityNotFound .relationship id)
        (fun relationship => Relationship.id_apply relationship patch) id diagram.relationships
      simp only [scope, Scope.outside, apply, hothers]
  | deleteRelationship id =>
      simp only [scope, Scope.outside, apply, filter_removeAll Relationship.id]
  | addRelationship relationship =>
      simp only [scope, Scope.outside, apply, filter_concat Relationship.id]
  | updateDependency id patch =>
      have hothers := filter_changeFirst Dependency.id (.entityNotFound .dependency id)
        (fun dependency => Dependency.id_apply dependency patch) id diagram.dependencies
      simp only [scope, Scope.outside, apply, hothers]
  | deleteDependency id =>
      simp only [scope, Scope.outside, apply, filter_removeAll Dependency.id]
  | addDependency dependency =>
      simp only [scope, Scope.outside, apply, filter_concat Dependency.id]
  | updateDiagram update =>
      obtain ⟨name, dialect, updatedAt⟩ := update
      cases name <;> cases dialect <;> cases updatedAt <;> rfl
  | clearTables | clearRelationships | clearDependencies => rfl

/-! ## Writes that fail -/

section Failures

variable {error failure : StorageError} {p : α → Bool} {items : List α}

theorem changeFirst_of_error {change : α → α}
    (h : (changeFirst error p change items).1 = .error failure) :
    (changeFirst error p change items).2 = items := by
  unfold changeFirst at h ⊢
  split
  · next hany =>
    rw [if_pos hany] at h
    cases h
  · rfl

/-- A list that is as long as before has lost nothing. -/
theorem removeAll_of_error (h : (removeAll error p items).1 = .error failure) :
    (removeAll error p items).2 = items := by
  unfold removeAll at h ⊢
  dsimp only at h
  split at h
  · next hlength => exact List.filter_eq_self.mpr (List.length_filter_eq_length_iff.mp hlength)
  · cases h

end Failures

/-- A write that fails leaves the diagram as it was. -/
theorem apply_of_error {write : DiagramWrite κ} {diagram : Diagram κ} {error : StorageError}
    (h : (write.apply diagram).1 = .error error) : (write.apply diagram).2 = diagram := by
  cases write with
  | updateTable id patch =>
      exact congrArg (fun tables => { diagram with tables := tables }) (changeFirst_of_error h)
  | deleteTable id =>
      exact congrArg (fun tables => { diagram with tables := tables }) (removeAll_of_error h)
  | updateRelationship id patch =>
      exact congrArg (fun relationships => { diagram with relationships := relationships })
        (changeFirst_of_error h)
  | deleteRelationship id =>
      exact congrArg (fun relationships => { diagram with relationships := relationships })
        (removeAll_of_error h)
  | updateDependency id patch =>
      exact congrArg (fun dependencies => { diagram with dependencies := dependencies })
        (changeFirst_of_error h)
  | deleteDependency id =>
      exact congrArg (fun dependencies => { diagram with dependencies := dependencies })
        (removeAll_of_error h)
  | _ => cases h

end DiagramWrite

namespace MemoryStorage

/-! ## Writes to a storage -/

/-- Two storages agree on all diagrams but one, and on whether writes are refused. -/
structure AgreesBut (id : Identifier) (before after : MemoryStorage κ) : Prop where
  diagrams : (after.diagrams.filter fun diagram => diagram.id != id) =
    before.diagrams.filter fun diagram => diagram.id != id
  found : ∀ other, other ≠ id → after.find? other = before.find? other
  writesDisabled : after.writesDisabled = before.writesDisabled

/-- What a write that succeeded has left of a storage. -/
def Leaves (before after : MemoryStorage κ) : Write κ → Prop
  | .addDiagram diagram =>
    AgreesBut diagram.id before after ∧ after.find? diagram.id = some diagram
  | .deleteDiagram id => AgreesBut id before after ∧ after.find? id = none
  | .within id write => AgreesBut id before after ∧
    ∃ diagram changed, before.find? id = some diagram ∧ after.find? id = some changed ∧
      write.apply diagram = (.ok (), changed) ∧
        write.scope.outside changed = write.scope.outside diagram

variable {storage later : MemoryStorage κ}

theorem AgreesBut.of_filter {id : Identifier}
    (hdiagrams : (later.diagrams.filter fun diagram => diagram.id != id) =
      storage.diagrams.filter fun diagram => diagram.id != id)
    (hdisabled : later.writesDisabled = storage.writesDisabled) : AgreesBut id storage later := by
  refine ⟨hdiagrams, fun other hother => ?_, hdisabled⟩
  have hkept : ∀ storage : MemoryStorage κ, storage.find? other =
      (storage.diagrams.filter fun diagram => diagram.id != id).find?
        fun diagram => diagram.id == other := by
    intro storage
    rw [find?, List.find?_filter]
    congr 1
    funext diagram
    by_cases hsame : diagram.id = other
    · simp [hsame, hother]
    · simp [hsame]
  rw [hkept, hkept, hdiagrams]

theorem agreesBut_insert (storage : MemoryStorage κ) (diagram : Diagram κ) :
    AgreesBut diagram.id storage (storage.insert diagram) := by
  refine .of_filter ?_ rfl
  rw [insert]
  split
  · exact DiagramWrite.filter_updateFirst Diagram.id (fun _ _ => rfl) _
  · exact DiagramWrite.filter_concat Diagram.id diagram _

theorem remove_of_error {id : Identifier} {error : StorageError}
    (h : (storage.remove id).1 = .error error) : (storage.remove id).2 = storage := by
  unfold remove at h ⊢
  cases hfound : storage.find? id with
  | some diagram =>
      simp only [getDiagram, hfound] at h
      cases h
  | none =>
      have hall : (storage.diagrams.filter fun other => other.id != id) = storage.diagrams := by
        apply List.filter_eq_self.mpr
        intro other hother
        simpa [bne] using List.find?_eq_none.mp hfound other hother
      rw [hall]

theorem leaves_remove (storage : MemoryStorage κ) (id : Identifier) :
    Leaves storage (storage.remove id).2 (.deleteDiagram id) := by
  refine ⟨.of_filter ?_ rfl, ?_⟩
  · exact List.filter_filter.trans (by simp)
  · rw [find?, List.find?_eq_none]
    simp [remove]

/-- What a failing write leaves of the diagram goes back into the storage, and it is what was stored
there. -/
theorem writeWithin_of_error {id : Identifier} {write : DiagramWrite κ} {error : StorageError}
    (h : (storage.writeWithin id write).1 = .error error) :
    (storage.writeWithin id write).2 = storage := by
  unfold writeWithin at h ⊢
  cases hfound : storage.find? id with
  | none => rfl
  | some diagram =>
      rw [hfound] at h
      have hleft : (write.apply diagram).2 = diagram := DiagramWrite.apply_of_error h
      have hdiagrams : updateFirst (fun other => other.id == id)
          (fun _ => (write.apply diagram).2) storage.diagrams = storage.diagrams :=
        updateFirst_eq_self hfound hleft
      exact congrArg (fun diagrams => { storage with diagrams := diagrams }) hdiagrams

theorem writeWithin_of_ok {id : Identifier} {write : DiagramWrite κ}
    (h : (storage.writeWithin id write).1 = .ok ()) :
    Leaves storage (storage.writeWithin id write).2 (.within id write) := by
  unfold writeWithin at h ⊢
  cases hfound : storage.find? id with
  | none =>
      rw [hfound] at h
      cases h
  | some diagram =>
      rw [hfound] at h
      have happly : write.apply diagram = (.ok (), (write.apply diagram).2) := Prod.ext h rfl
      have hstored : diagram.id = id := by simpa using List.find?_some hfound
      have hid : (write.apply diagram).2.id = id := by rw [DiagramWrite.id_apply, hstored]
      refine ⟨.of_filter ?_ rfl, diagram, _, hfound, ?_, happly,
        DiagramWrite.outside_apply write diagram⟩
      · exact DiagramWrite.filter_updateFirst Diagram.id (fun _ _ => hid) _
      · exact find?_updateFirst hfound (beq_iff_eq.mpr hid)

theorem write_of_error {write : Write κ} {error : StorageError}
    (h : (storage.write write).1 = .error error) : (storage.write write).2 = storage := by
  unfold MemoryStorage.write at h ⊢
  split
  · rfl
  · next henabled =>
    rw [if_neg henabled] at h
    cases write with
    | addDiagram diagram => cases h
    | deleteDiagram id => exact remove_of_error h
    | within id write => exact writeWithin_of_error h

theorem write_of_ok {write : Write κ} (h : (storage.write write).1 = .ok ()) :
    Leaves storage (storage.write write).2 write := by
  unfold MemoryStorage.write at h ⊢
  split
  · next hdisabled =>
    rw [if_pos hdisabled] at h
    cases h
  · next henabled =>
    rw [if_neg henabled] at h
    cases write with
    | addDiagram diagram =>
        exact ⟨storage.agreesBut_insert diagram, storage.find?_insert diagram⟩
    | deleteDiagram id => exact leaves_remove storage id
    | within id write => exact writeWithin_of_ok h

/-! ## Requests -/

/-- What can be asked of a storage in memory, with the type of what it answers. -/
inductive Request (κ : Type) : Type → Type 1
  | listDiagrams : Request κ (List DiagramSummary)
  | getDiagram (id : Identifier) : Request κ (Diagram κ)
  | getTable (diagramId id : Identifier) : Request κ (Table κ)
  | perform (write : Write κ) : Request κ Unit
  | importDocument (document : String) : Request κ Identifier

variable [CoordinateCodec κ]

namespace Request

def run (storage : MemoryStorage κ) : Request κ α → Except StorageError α × MemoryStorage κ
  | listDiagrams => (.ok storage.listDiagrams, storage)
  | getDiagram id => (storage.getDiagram id, storage)
  | getTable diagramId id => (storage.getTable diagramId id, storage)
  | perform write => storage.write write
  | importDocument document => storage.importDocument document

/-- What a request that succeeded has left of a storage: nothing has changed if it was a question,
and otherwise no diagram but the one that it is about. -/
def Served (before after : MemoryStorage κ) : Request κ α → α → Prop
  | perform write, _ => Leaves before after write
  | importDocument document, id => AgreesBut id before after ∧
    ∃ diagram, diagramOfDocument? document = some diagram ∧ diagram.id = id ∧
      after.find? id = some diagram
  | _, _ => after = before

/-- A request that fails changes nothing, and one that succeeds changes what it is about. -/
theorem run_atomic (storage : MemoryStorage κ) (request : Request κ α) :
    (∀ error, (request.run storage).1 = .error error → (request.run storage).2 = storage) ∧
      ∀ answer, (request.run storage).1 = .ok answer →
        request.Served storage (request.run storage).2 answer := by
  cases request with
  | listDiagrams | getDiagram | getTable => exact ⟨fun _ _ => rfl, fun _ _ => rfl⟩
  | perform write => exact ⟨fun _ => write_of_error, fun _ => write_of_ok⟩
  | importDocument document =>
      simp only [run, MemoryStorage.importDocument, Served]
      cases hread : (diagramOfDocument? document : Option (Diagram κ)) with
      | none => exact ⟨fun _ _ => rfl, fun _ hanswer => (by cases hanswer)⟩
      | some diagram =>
          refine ⟨fun _ herror => (by cases herror), fun id hanswer => ?_⟩
          obtain rfl := Except.ok.inj hanswer
          exact ⟨storage.agreesBut_insert diagram, diagram, rfl, rfl, storage.find?_insert diagram⟩

/-- Two stored diagrams, the first of them with two tables. -/
def twoDiagrams : MemoryStorage Float where
  diagrams := [
    { (Diagram.new ⟨Identifier.ofNat 1, ⟨0, 0⟩, ""⟩ "shop" .generic : Diagram Float) with
      tables := [Table.new ⟨Identifier.ofNat 3, ⟨0, 0⟩, ""⟩ "orders" 0 0,
        Table.new ⟨Identifier.ofNat 4, ⟨0, 0⟩, ""⟩ "users" 0 0] },
    Diagram.new ⟨Identifier.ofNat 2, ⟨0, 0⟩, ""⟩ "ledger" .sqlite]
  writesDisabled := false

/-- Within the first diagram, a table that is not there and one that is there are deleted. -/
theorem run_atomic_twoDiagrams :
    ((run twoDiagrams (.perform (.within (Identifier.ofNat 1)
        (.deleteTable (Identifier.ofNat 5))))).1 =
          .error (.entityNotFound .table (Identifier.ofNat 5)) ∧
      (run twoDiagrams (.perform (.within (Identifier.ofNat 1)
        (.deleteTable (Identifier.ofNat 5))))).2 = twoDiagrams) ∧
    ((run twoDiagrams (.perform (.within (Identifier.ofNat 1)
        (.deleteTable (Identifier.ofNat 3))))).1 = .ok () ∧
      Served twoDiagrams (run twoDiagrams (.perform (.within (Identifier.ofNat 1)
        (.deleteTable (Identifier.ofNat 3))))).2
        (.perform (.within (Identifier.ofNat 1) (.deleteTable (Identifier.ofNat 3)))) ()) :=
  ⟨⟨rfl, (run_atomic twoDiagrams _).1 _ rfl⟩, rfl, (run_atomic twoDiagrams _).2 () rfl⟩

end Request

end MemoryStorage

end SchemaDiagram
