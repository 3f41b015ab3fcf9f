import SchemaDiagram.Proofs.Reconciliation.Valid
import SchemaDiagram.Proofs.Session.Grown
import SchemaDiagram.Proofs.Session.Reached

/-!
# No link to a missing table

In a linked diagram both tables of every relationship and of every dependency are there.  A mutation
keeps a diagram linked as long as the links that it puts in or patches name present tables: tables
only ever disappear together with the links at them.  The relationships of a text are resolved among
the tables that its plan leads to, so every text keeps the diagram linked, and undo and redo lead
along a timeline of linked diagrams.

Nothing is assumed of the identifiers that are there: two tables may share one.
-/

namespace SchemaDiagram

open Reconciliation

variable {σ κ : Type}

/-! ## Links among tables -/

/-- Both ends of a relationship stand at tables with the given identifiers. -/
def Relationship.Among (tableIds : List Identifier) (relationship : Relationship) : Prop :=
  relationship.source.tableId ∈ tableIds ∧ relationship.target.tableId ∈ tableIds

/-- Both tables of a dependency are among those with the given identifiers. -/
def Dependency.Among (tableIds : List Identifier) (dependency : Dependency) : Prop :=
  dependency.tableId ∈ tableIds ∧ dependency.dependentTableId ∈ tableIds

/-- The ends that an update of a relationship gives stand at tables with the given identifiers. -/
def RelationshipPatch.Among (tableIds : List Identifier) (patch : RelationshipPatch) : Prop :=
  (∀ endpoint, patch.source = some endpoint → endpoint.tableId ∈ tableIds) ∧
    ∀ endpoint, patch.target = some endpoint → endpoint.tableId ∈ tableIds

/-- The tables that an update of a dependency gives are among those with the given identifiers. -/
def DependencyPatch.Among (tableIds : List Identifier) (patch : DependencyPatch) : Prop :=
  (∀ id, patch.tableId = some id → id ∈ tableIds) ∧
    ∀ id, patch.dependentTableId = some id → id ∈ tableIds

section Among

variable {tableIds others : List Identifier} {relationship : Relationship}
  {dependency : Dependency}

theorem Relationship.Among.mono (h : relationship.Among tableIds) (hsub : tableIds ⊆ others) :
    relationship.Among others :=
  ⟨hsub h.1, hsub h.2⟩

theorem Dependency.Among.mono (h : dependency.Among tableIds) (hsub : tableIds ⊆ others) :
    dependency.Among others :=
  ⟨hsub h.1, hsub h.2⟩

theorem RelationshipPatch.Among.mono {patch : RelationshipPatch} (h : patch.Among tableIds)
    (hsub : tableIds ⊆ others) : patch.Among others :=
  ⟨fun endpoint hsource => hsub (h.1 endpoint hsource),
    fun endpoint htarget => hsub (h.2 endpoint htarget)⟩

theorem DependencyPatch.Among.mono {patch : DependencyPatch} (h : patch.Among tableIds)
    (hsub : tableIds ⊆ others) : patch.Among others :=
  ⟨fun id htable => hsub (h.1 id htable), fun id hdependent => hsub (h.2 id hdependent)⟩

theorem Relationship.Among.apply (h : relationship.Among tableIds) {patch : RelationshipPatch}
    (hpatch : patch.Among tableIds) : (relationship.apply patch).Among tableIds := by
  constructor
  · cases hsource : patch.source with
    | none => simpa [Relationship.apply, hsource] using h.1
    | some endpoint => simpa [Relationship.apply, hsource] using hpatch.1 endpoint hsource
  · cases htarget : patch.target with
    | none => simpa [Relationship.apply, htarget] using h.2
    | some endpoint => simpa [Relationship.apply, htarget] using hpatch.2 endpoint htarget

theorem Dependency.Among.apply (h : dependency.Among tableIds) {patch : DependencyPatch}
    (hpatch : patch.Among tableIds) : (dependency.apply patch).Among tableIds := by
  constructor
  · cases htable : patch.tableId with
    | none => simpa [Dependency.apply, htable] using h.1
    | some id => simpa [Dependency.apply, htable] using hpatch.1 id htable
  · cases hdependent : patch.dependentTableId with
    | none => simpa [Dependency.apply, hdependent] using h.2
    | some id => simpa [Dependency.apply, hdependent] using hpatch.2 id hdependent

/-- Where every table is kept or removed, a relationship that touches no removed one stays among
those that are kept. -/
theorem Relationship.Among.of_untouched {removed : List Identifier}
    (h : relationship.Among tableIds) (hleft : ∀ id ∈ tableIds, id ∈ others ∨ id ∈ removed)
    (huntouched : relationship.touchesAny removed = false) : relationship.Among others := by
  simp only [Relationship.touchesAny, Bool.or_eq_false_iff, List.contains_eq_mem,
    decide_eq_false_iff_not] at huntouched
  exact ⟨(hleft _ h.1).resolve_right huntouched.1, (hleft _ h.2).resolve_right huntouched.2⟩

theorem Dependency.Among.of_untouched {removed : List Identifier}
    (h : dependency.Among tableIds) (hleft : ∀ id ∈ tableIds, id ∈ others ∨ id ∈ removed)
    (huntouched : dependency.touchesAny removed = false) : dependency.Among others := by
  simp only [Dependency.touchesAny, Bool.or_eq_false_iff, List.contains_eq_mem,
    decide_eq_false_iff_not] at huntouched
  exact ⟨(hleft _ h.1).resolve_right huntouched.1, (hleft _ h.2).resolve_right huntouched.2⟩

end Among

namespace Diagram

def tableIds (diagram : Diagram κ) : List Identifier :=
  diagram.tables.map Table.id

/-- Both tables of every relationship and of every dependency are there. -/
structure Linked (diagram : Diagram κ) : Prop where
  relationships : ∀ relationship ∈ diagram.relationships, relationship.Among diagram.tableIds
  dependencies : ∀ dependency ∈ diagram.dependencies, dependency.Among diagram.tableIds

@[simp] theorem linked_touched {diagram : Diagram κ} {time : Timestamp} :
    (diagram.touched time).Linked ↔ diagram.Linked :=
  ⟨fun h => ⟨h.relationships, h.dependencies⟩, fun h => ⟨h.relationships, h.dependencies⟩⟩

variable {diagram : Diagram κ}

/-- Tables may come in and change as long as their identifiers stay. -/
theorem Linked.withTables (h : diagram.Linked) {tables : List (Table κ)}
    (hsub : diagram.tableIds ⊆ tables.map Table.id) :
    Linked { diagram with tables := tables } :=
  ⟨fun relationship hmem => (h.relationships relationship hmem).mono hsub,
    fun dependency hmem => (h.dependencies dependency hmem).mono hsub⟩

theorem Linked.updateTable (h : diagram.Linked) (id : Identifier) {change : Table κ → Table κ}
    (hchange : ∀ table, (change table).id = table.id) :
    Linked { diagram with
      tables := updateFirst (fun table => table.id == id) change diagram.tables } := by
  apply h.withTables
  rw [map_updateFirst hchange]
  exact List.Subset.refl _

/-- Tables go together with the links at them. -/
theorem Linked.detachLinks (h : diagram.Linked) {removed : List Identifier}
    {tables : List (Table κ)}
    (hleft : ∀ id ∈ diagram.tableIds, id ∈ tables.map Table.id ∨ id ∈ removed) :
    Linked { (Mutation.detachLinks diagram removed).2 with tables := tables } := by
  rw [Mutation.detachLinks_eq]
  constructor
  · intro relationship hmem
    simp only [takePositioned_snd] at hmem
    obtain ⟨hold, huntouched⟩ := List.mem_filter.mp hmem
    exact (h.relationships relationship hold).of_untouched hleft (by simpa using huntouched)
  · intro dependency hmem
    simp only [takePositioned_snd] at hmem
    obtain ⟨hold, huntouched⟩ := List.mem_filter.mp hmem
    exact (h.dependencies dependency hold).of_untouched hleft (by simpa using huntouched)

theorem Linked.withoutTables (h : diagram.Linked) (ids : List Identifier) :
    (Mutation.withoutTables diagram ids).Linked := by
  apply h.detachLinks
  intro id hid
  obtain ⟨table, htable, rfl⟩ := List.mem_map.mp hid
  by_cases hremoved : table.id ∈ ids
  · refine .inr ?_
    rw [map_key_takePositioned]
    exact List.mem_map_of_mem (List.mem_filter.mpr ⟨htable, by simpa using hremoved⟩)
  · refine .inl (List.mem_map_of_mem ?_)
    rw [takePositioned_snd]
    exact List.mem_filter.mpr ⟨htable, by simpa using hremoved⟩

theorem Linked.setTables (h : diagram.Linked) (after : List (Table κ)) :
    (Mutation.withTables diagram after).Linked := by
  apply h.detachLinks
  intro id hid
  obtain ⟨table, htable, rfl⟩ := List.mem_map.mp hid
  by_cases hkept : table.id ∈ after.map Table.id
  · exact .inl hkept
  · refine .inr (Mutation.mem_vanishing.mpr ⟨⟨table, htable, rfl⟩, ?_⟩)
    intro other hother hsame
    exact hkept (hsame ▸ List.mem_map_of_mem hother)

theorem Linked.withRelationships (h : diagram.Linked) {relationships : List Relationship}
    (hrelationships : ∀ relationship ∈ relationships,
      relationship ∈ diagram.relationships ∨ relationship.Among diagram.tableIds) :
    Linked { diagram with relationships := relationships } :=
  ⟨fun relationship hmem => (hrelationships relationship hmem).elim
    (h.relationships relationship) fun hamong => hamong, h.dependencies⟩

theorem Linked.withDependencies (h : diagram.Linked) {dependencies : List Dependency}
    (hdependencies : ∀ dependency ∈ dependencies,
      dependency ∈ diagram.dependencies ∨ dependency.Among diagram.tableIds) :
    Linked { diagram with dependencies := dependencies } :=
  ⟨h.relationships, fun dependency hmem => (hdependencies dependency hmem).elim
    (h.dependencies dependency) fun hamong => hamong⟩

/-- In a linked diagram no link stands at an identifier that no table carries. -/
theorem Linked.unlinked (h : diagram.Linked) {id : Identifier} (hid : diagram.table? id = none) :
    diagram.Unlinked id := by
  have hmissing : id ∉ diagram.tableIds := table?_eq_none_iff.mp hid
  constructor
  · intro relationship hmem
    obtain ⟨hsource, htarget⟩ := h.relationships relationship hmem
    have hne : relationship.source.tableId ≠ id ∧ relationship.target.tableId ≠ id :=
      ⟨fun hsame => hmissing (hsame ▸ hsource), fun hsame => hmissing (hsame ▸ htarget)⟩
    simpa [Relationship.touchesAny] using hne
  · intro dependency hmem
    obtain ⟨htable, hdependent⟩ := h.dependencies dependency hmem
    have hne : dependency.tableId ≠ id ∧ dependency.dependentTableId ≠ id :=
      ⟨fun hsame => hmissing (hsame ▸ htable), fun hsame => hmissing (hsame ▸ hdependent)⟩
    simpa [Dependency.touchesAny] using hne

end Diagram

/-! ## Mutations -/

namespace Mutation

/-- The links that a mutation puts in, and the ends that it patches, stand at the given tables. -/
def Among (tableIds : List Identifier) : Mutation κ → Prop
  | insertRelationships entries => ∀ entry ∈ entries, entry.2.Among tableIds
  | addRelationships relationships => ∀ relationship ∈ relationships, relationship.Among tableIds
  | updateRelationship _ patch => patch.Among tableIds
  | insertDependencies entries => ∀ entry ∈ entries, entry.2.Among tableIds
  | addDependencies dependencies => ∀ dependency ∈ dependencies, dependency.Among tableIds
  | updateDependency _ patch => patch.Among tableIds
  | _ => True

theorem Among.mono {tableIds others : List Identifier} {mutation : Mutation κ}
    (h : mutation.Among tableIds) (hsub : tableIds ⊆ others) : mutation.Among others := by
  cases mutation with
  | insertRelationships entries => exact fun entry hmem => (h entry hmem).mono hsub
  | addRelationships relationships => exact fun other hmem => (h other hmem).mono hsub
  | updateRelationship id patch => exact RelationshipPatch.Among.mono h hsub
  | insertDependencies entries => exact fun entry hmem => (h entry hmem).mono hsub
  | addDependencies dependencies => exact fun other hmem => (h other hmem).mono hsub
  | updateDependency id patch => exact DependencyPatch.Among.mono h hsub
  | _ => exact trivial

/-- A caller passes entities in under identifiers that are not in use, and puts nothing at a
position. -/
def PassesNew (diagram : Diagram κ) : Mutation κ → Prop
  | addTables tables => ∀ table ∈ tables, diagram.table? table.id = none
  | setTables _ _ => True
  | mutation => mutation.Admissible diagram

variable {diagram : Diagram κ} {mutation : Mutation κ} {change : Change κ}

/-- In a linked diagram no link stands at a table that is yet to come. -/
theorem PassesNew.admissible (h : mutation.PassesNew diagram) (hlinked : diagram.Linked) :
    mutation.Admissible diagram := by
  cases mutation with
  | addTables tables => exact fun table hmem => ⟨h table hmem, hlinked.unlinked (h table hmem)⟩
  | setTables tables mode =>
      cases mode with
      | merge => exact trivial
      | override => exact fun table _ hnone => hlinked.unlinked hnone
  | insertField tableId field position => exact h
  | insertIndex tableId index position => exact h
  | _ => exact h

theorem mem_insertPositioned {α : Type} {items : List α} {entries : List (Nat × α)} {item : α}
    (h : item ∈ insertPositioned items entries) : item ∈ items ∨ item ∈ entries.map Prod.snd :=
  List.mem_append.mp ((insertPositioned_perm items entries).mem_iff.mp h)

/-! ### Tables -/

theorem linked_insertTablesChange (h : diagram.Linked) (entries : List (Nat × Table κ)) :
    (insertTablesChange diagram entries).diagram.Linked := by
  apply h.withTables
  intro id hid
  rw [((insertPositioned_perm diagram.tables entries).map Table.id).mem_iff, List.map_append]
  exact List.mem_append_left _ hid

theorem linked_removeTablesChange (h : diagram.Linked) {ids : List Identifier}
    (hchange : removeTablesChange diagram ids = .ok change) : change.diagram.Linked := by
  rw [(removeTablesChange_eq_ok hchange).1]
  exact h.withoutTables ids

theorem linked_updateTableChange (h : diagram.Linked) {id : Identifier} {patch : TablePatch κ}
    (hchange : updateTableChange diagram id patch = .ok change) : change.diagram.Linked := by
  rw [Workspace.updateTableChange_diagram hchange]
  exact h.updateTable id fun table => Table.id_apply table patch

/-! ### Relationships -/

theorem linked_insertRelationshipsChange (h : diagram.Linked)
    {entries : List (Nat × Relationship)}
    (hentries : ∀ relationship ∈ entries.map Prod.snd, relationship.Among diagram.tableIds) :
    (insertRelationshipsChange diagram entries).diagram.Linked := by
  apply h.withRelationships
  intro relationship hmem
  exact (mem_insertPositioned hmem).imp_right (hentries relationship)

theorem linked_removeRelationshipsChange (h : diagram.Linked) {ids : List Identifier}
    (hchange : removeRelationshipsChange diagram ids = .ok change) : change.diagram.Linked := by
  rw [(removeRelationshipsChange_eq_ok hchange).1, takePositioned_snd]
  exact h.withRelationships fun _ hmem => .inl (List.mem_filter.mp hmem).1

theorem linked_updateRelationshipChange (h : diagram.Linked) {id : Identifier}
    {patch : RelationshipPatch} (hpatch : patch.Among diagram.tableIds)
    (hchange : updateRelationshipChange diagram id patch = .ok change) :
    change.diagram.Linked := by
  rw [Workspace.updateRelationshipChange_diagram hchange]
  apply h.withRelationships
  intro relationship hmem
  rcases mem_updateFirst hmem with hold | ⟨old, hfind, rfl⟩
  · exact .inl hold
  · exact .inr ((h.relationships old (List.mem_of_find?_eq_some hfind)).apply hpatch)

/-! ### Dependencies -/

theorem linked_insertDependenciesChange (h : diagram.Linked) {entries : List (Nat × Dependency)}
    (hentries : ∀ dependency ∈ entries.map Prod.snd, dependency.Among diagram.tableIds) :
    (insertDependenciesChange diagram entries).diagram.Linked := by
  apply h.withDependencies
  intro dependency hmem
  exact (mem_insertPositioned hmem).imp_right (hentries dependency)

theorem linked_removeDependenciesChange (h : diagram.Linked) {ids : List Identifier}
    (hchange : removeDependenciesChange diagram ids = .ok change) : change.diagram.Linked := by
  rw [(removeDependenciesChange_eq_ok hchange).1, takePositioned_snd]
  exact h.withDependencies fun _ hmem => .inl (List.mem_filter.mp hmem).1

theorem linked_updateDependencyChange (h : diagram.Linked) {id : Identifier}
    {patch : DependencyPatch} (hpatch : patch.Among diagram.tableIds)
    (hchange : updateDependencyChange diagram id patch = .ok change) : change.diagram.Linked := by
  obtain ⟨_, _, hrest⟩ := orRefuse_bind_eq_ok_iff.mp hchange
  obtain rfl := Except.ok.inj hrest
  apply h.withDependencies
  intro dependency hmem
  rcases mem_updateFirst hmem with hold | ⟨old, hfind, rfl⟩
  · exact .inl hold
  · exact .inr ((h.dependencies old (List.mem_of_find?_eq_some hfind)).apply hpatch)

/-! ### Every mutation -/

/-- A mutation whose links stand at present tables keeps a diagram linked. -/
theorem change_linked (hchange : mutation.change diagram = .ok change) (h : diagram.Linked)
    (hamong : mutation.Among diagram.tableIds) : change.diagram.Linked := by
  cases mutation with
  | renameDiagram name =>
      obtain rfl := Except.ok.inj hchange
      exact ⟨h.relationships, h.dependencies⟩
  | insertTables | addTables =>
      obtain rfl := Except.ok.inj hchange
      exact linked_insertTablesChange h _
  | removeTables ids => exact linked_removeTablesChange h hchange
  | updateTable id patch => exact linked_updateTableChange h hchange
  | setTables tables mode =>
      obtain rfl := Except.ok.inj hchange
      exact h.setTables _
  -- A table keeps its identifier when its parts change.
  | insertField | insertIndex =>
      obtain ⟨_, _, hrest⟩ := orRefuse_bind_eq_ok_iff.mp hchange
      obtain rfl := Except.ok.inj hrest
      exact h.updateTable _ fun _ => rfl
  | updateField | removeField | updateIndex | removeIndex =>
      obtain ⟨_, _, hrest⟩ := orRefuse_bind_eq_ok_iff.mp hchange
      obtain ⟨_, _, hrest⟩ := orRefuse_bind_eq_ok_iff.mp hrest
      obtain rfl := Except.ok.inj hrest
      exact h.updateTable _ fun _ => rfl
  | insertRelationships entries =>
      obtain rfl := Except.ok.inj hchange
      exact linked_insertRelationshipsChange h (List.forall_mem_map.mpr hamong)
  | addRelationships relationships =>
      obtain rfl := Except.ok.inj hchange
      exact linked_insertRelationshipsChange h (by rwa [positionedFrom_map_snd])
  | removeRelationships ids => exact linked_removeRelationshipsChange h hchange
  | updateRelationship id patch => exact linked_updateRelationshipChange h hamong hchange
  | insertDependencies entries =>
      obtain rfl := Except.ok.inj hchange
      exact linked_insertDependenciesChange h (List.forall_mem_map.mpr hamong)
  | addDependencies dependencies =>
      obtain rfl := Except.ok.inj hchange
      exact linked_insertDependenciesChange h (by rwa [positionedFrom_map_snd])
  | removeDependencies ids => exact linked_removeDependenciesChange h hchange
  | updateDependency id patch => exact linked_updateDependencyChange h hamong hchange

end Mutation

/-! ## Plans -/

/-- The identifiers of the tables that a plan leaves. -/
def Plan.tableIdsKept (plan : Plan κ) (diagram : Diagram κ) : List Identifier :=
  diagram.tableIds.filter fun id => !plan.deletedTables.contains id

/-- The identifiers of the tables that are there once the tables of a plan are settled. -/
def Plan.tableIdsAfter (plan : Plan κ) (diagram : Diagram κ) : List Identifier :=
  plan.tableIdsKept diagram ++ plan.createdTables.map Table.id

/-- The relationships that a plan creates or updates stand at tables that are there once the tables
of the plan are settled. -/
structure Plan.Among (plan : Plan κ) (diagram : Diagram κ) : Prop where
  updated : ∀ update ∈ plan.updatedRelationships, update.2.Among (plan.tableIdsAfter diagram)
  created : ∀ relationship ∈ plan.createdRelationships,
    relationship.Among (plan.tableIdsAfter diagram)

namespace Workspace

/-- Linked diagrams in which the given tables are there. -/
def LinkedWith (tableIds : List Identifier) (diagram : Diagram κ) : Prop :=
  diagram.Linked ∧ tableIds ⊆ diagram.tableIds

variable [Storage σ κ] {tableIds : List Identifier}

/-- A mutation that names given tables only, and takes none of them away. -/
theorem turns_linked {mutation : Mutation κ} (hamong : mutation.Among tableIds)
    (hkept : ∀ diagram change, mutation.change diagram = .ok change →
      tableIds ⊆ diagram.tableIds → tableIds ⊆ change.diagram.tableIds) (record : Bool) :
    Turns (σ := σ) (LinkedWith tableIds) (LinkedWith tableIds)
      fun workspace => workspace.perform mutation record := by
  apply turns_perform
  · exact fun _ h => h
  · intro diagram change h hchange time
    have hnamed : mutation.Among diagram.tableIds := hamong.mono h.2
    exact ⟨Diagram.linked_touched.mpr (Mutation.change_linked hchange h.1 hnamed),
      hkept diagram change hchange h.2⟩

theorem turns_linked_updateTable (id : Identifier) (patch : TablePatch κ) (record : Bool) :
    Turns (σ := σ) (LinkedWith tableIds) (LinkedWith tableIds)
      fun workspace => workspace.perform (.updateTable id patch) record := by
  apply turns_linked
  · exact trivial
  · intro diagram change hchange hsub
    rw [updateTableChange_diagram hchange, Diagram.tableIds,
      map_updateFirst fun table => Table.id_apply table patch]
    exact hsub

theorem turns_linked_placeTables [Coordinate κ] (ids : List Identifier) (record : Bool) :
    Turns (σ := σ) (LinkedWith (κ := κ) tableIds) (LinkedWith tableIds)
      (placeTables ids record) := by
  intro workspace
  refine turns_runAll ?_ workspace
  intro operation hoperation
  obtain ⟨position, -, rfl⟩ := List.mem_map.mp hoperation
  exact turns_linked_updateTable position.tableId _ record

theorem turns_linked_removeTables {ids : List Identifier} (hapart : ∀ id ∈ tableIds, id ∉ ids)
    (record : Bool) :
    Turns (σ := σ) (LinkedWith (κ := κ) tableIds) (LinkedWith tableIds)
      fun workspace => workspace.perform (.removeTables ids) record := by
  apply turns_linked
  · exact trivial
  · intro diagram change hchange hsub id hid
    obtain ⟨table, htable, rfl⟩ := List.mem_map.mp (hsub hid)
    rw [(Mutation.removeTablesChange_eq_ok hchange).1, Diagram.tableIds, Mutation.withoutTables,
      takePositioned_snd]
    refine List.mem_map_of_mem (List.mem_filter.mpr ⟨htable, ?_⟩)
    simpa using hapart table.id hid

theorem turns_linked_addTables (tables : List (Table κ)) (record : Bool) :
    Turns (σ := σ) (LinkedWith tableIds) (LinkedWith (tableIds ++ tables.map Table.id))
      fun workspace => workspace.perform (.addTables tables) record := by
  intro workspace diagram hloaded h
  have hchange : (Mutation.addTables tables).change diagram = .ok _ := rfl
  refine ⟨Diagram.touched { diagram with tables := diagram.tables ++ tables }
    (workspace.session.supply.get 0).time, ?_, ?_, ?_⟩
  · rw [perform_session record hloaded hchange, Mutation.insertTablesChange,
      insertPositioned_positionedFrom_length]
    cases record <;> rfl
  · rw [Diagram.linked_touched]
    exact h.1.withTables (by rw [List.map_append]; exact List.subset_append_left _ _)
  · rw [Diagram.tableIds, Diagram.tables_touched, List.map_append]
    exact List.append_subset.mpr ⟨fun id hid => List.mem_append_left _ (h.2 hid),
      List.subset_append_right _ _⟩

theorem turns_linked_removeRelationships (ids : List Identifier) (record : Bool) :
    Turns (σ := σ) (LinkedWith (κ := κ) tableIds) (LinkedWith tableIds)
      fun workspace => workspace.perform (.removeRelationships ids) record := by
  apply turns_linked
  · exact trivial
  · intro diagram change hchange hsub
    rw [(Mutation.removeRelationshipsChange_eq_ok hchange).1]
    exact hsub

theorem turns_linked_updateRelationship (id : Identifier) {patch : RelationshipPatch}
    (hpatch : patch.Among tableIds) (record : Bool) :
    Turns (σ := σ) (LinkedWith (κ := κ) tableIds) (LinkedWith tableIds)
      fun workspace => workspace.perform (.updateRelationship id patch) record := by
  apply turns_linked
  · exact hpatch
  · intro diagram change hchange hsub
    rw [updateRelationshipChange_diagram hchange]
    exact hsub

theorem turns_linked_addRelationships {relationships : List Relationship}
    (hrelationships : ∀ relationship ∈ relationships, relationship.Among tableIds)
    (record : Bool) :
    Turns (σ := σ) (LinkedWith (κ := κ) tableIds) (LinkedWith tableIds)
      fun workspace => workspace.perform (.addRelationships relationships) record := by
  apply turns_linked
  · exact hrelationships
  · intro diagram change hchange hsub
    obtain rfl := Except.ok.inj hchange
    exact hsub

/-- The tables of a plan are settled before its relationships, so that what the relationships name
is there when they come. -/
theorem turns_linked_planOperations [Coordinate κ] {plan : Plan κ} {start : Diagram κ}
    (hamong : plan.Among start) (record : Bool) :
    Turns (LinkedWith (plan.tableIdsKept start)) (LinkedWith (plan.tableIdsAfter start))
      fun workspace : Workspace σ κ => workspace.runAll (planOperations plan record) := by
  have hkept : ∀ id ∈ plan.tableIdsKept start, id ∉ plan.deletedTables :=
    fun id hid => by simpa using (List.mem_filter.mp hid).2
  unfold planOperations
  refine .append (LinkedWith (plan.tableIdsAfter start))
    (.append (LinkedWith (plan.tableIdsAfter start))
      (.append (LinkedWith (plan.tableIdsAfter start))
        (.append (LinkedWith (plan.tableIdsKept start))
          (.append (LinkedWith (plan.tableIdsKept start)) ?deleted ?updated) ?created) ?unlinked)
      ?relinked) ?linked
  case deleted =>
    exact turns_unless (fun _ h => h) (turns_linked_removeTables hkept record).single
  case updated =>
    apply turns_runAll
    intro operation hoperation
    obtain ⟨update, -, rfl⟩ := List.mem_map.mp hoperation
    exact turns_linked_updateTable update.1 update.2 record
  case created =>
    by_cases hnone : plan.createdTables.isEmpty = true
    · simp only [Plan.tableIdsAfter, List.isEmpty_iff.mp hnone, List.map_nil,
        List.append_nil]
      exact turns_nil _
    · simp only [if_neg hnone]
      exact (turns_linked_addTables plan.createdTables record).single.append _
        (turns_linked_placeTables _ record).single
  case unlinked =>
    exact turns_unless (fun _ h => h) (turns_linked_removeRelationships _ record).single
  case relinked =>
    apply turns_runAll
    intro operation hoperation
    obtain ⟨update, hupdate, rfl⟩ := List.mem_map.mp hoperation
    exact turns_linked_updateRelationship update.1 (hamong.updated update hupdate) record
  case linked =>
    exact turns_unless (fun _ h => h)
      (turns_linked_addRelationships hamong.created record).single

theorem applyPlan_linked [Coordinate κ] {workspace : Workspace σ κ} {diagram : Diagram κ}
    {plan : Plan κ} (hloaded : workspace.session.diagram? = some diagram)
    (hlinked : diagram.Linked) (hamong : plan.Among diagram) (record : Bool) :
    ∃ after, (workspace.applyPlan plan record).2.session.diagram? = some after ∧
      after.Linked := by
  have hstart : LinkedWith (plan.tableIdsKept diagram) diagram :=
    ⟨hlinked, List.filter_subset_self _⟩
  rw [Workspace.applyPlan, hloaded, Option.isNone_some, if_neg Bool.false_ne_true]
  by_cases hempty : plan.isEmpty = true
  · rw [if_pos hempty]
    exact ⟨diagram, hloaded, hlinked⟩
  · rw [if_neg hempty]
    cases record with
    | false =>
        obtain ⟨after, hafter, hdone, -⟩ :=
          turns_linked_planOperations hamong false workspace diagram hloaded hstart
        exact ⟨after, hafter, hdone⟩
    | true =>
        obtain ⟨after, hafter, hdone, -⟩ := turns_linked_planOperations hamong true
          (workspace.mapHistory History.beginGroup) diagram hloaded hstart
        exact ⟨after, hafter, hdone⟩

end Workspace

/-! ## Texts -/

namespace Reconciliation

theorem map_id_updateFirst {tables : List (Table κ)} {table : Table κ} :
    (updateFirst (fun other => other.id == table.id) (fun _ => table) tables).map Table.id =
      tables.map Table.id := by
  induction tables with
  | nil => rfl
  | cons first rest ih =>
      by_cases hfirst : first.id = table.id
      · rw [updateFirst, if_pos (beq_iff_eq.mpr hfirst), List.map_cons, List.map_cons, hfirst]
      · rw [updateFirst, if_neg (by simpa using hfirst), List.map_cons, List.map_cons, ih]

/-- The projected tables carry the identifiers of the tables that are left and of the created
ones. -/
theorem map_id_declareAll [Coordinate κ] {live : List (Table κ)} {kept : List Identifier}
    {changes : TableChanges κ}
    (h : changes.projected.map Table.id = kept ++ changes.created.map Table.id)
    (supply : Supply) (declarations : List TableDeclaration) :
    let done := TableChanges.declareAll live supply changes declarations
    done.projected.map Table.id = kept ++ done.created.map Table.id := by
  induction declarations generalizing supply changes with
  | nil => exact h
  | cons declaration rest ih =>
      apply ih
      rcases changes.declare_cases live supply declaration with
        ⟨-, heq⟩ | ⟨table, -, ⟨-, heq⟩ | heq⟩
      · rw [heq]
        simp only [List.map_append, h, List.append_assoc]
      · rw [heq, h]
      · rw [heq]
        have hid : (table.apply (tablePatch (supply.drop 1) declaration table)).id = table.id :=
          Table.id_apply table _
        rw [← h, ← hid]
        exact map_id_updateFirst

/-- The relationships of a text stand at tables that its plan leads to. -/
theorem reconcile_among [Coordinate κ] (supply : Supply) (schema : DeclaredSchema)
    (diagram : Diagram κ) :
    (reconcile supply schema diagram.tables diagram.relationships).Among diagram := by
  let matching := matchTables schema.tables diagram.tables
  let changes := reconcileTables supply matching diagram.tables
  let plan := reconcile supply schema diagram.tables diagram.relationships
  have hprojected : changes.projected.map Table.id = plan.tableIdsAfter diagram := by
    refine map_id_declareAll ?_ supply matching.declarations
    rw [List.map_nil, List.append_nil, Plan.tableIdsKept, Diagram.tableIds, List.filter_map]
    rfl
  have hstands : ∀ endpoint : Endpoint, endpoint.StandsAt changes.projected →
      endpoint.tableId ∈ plan.tableIdsAfter diagram := by
    rintro endpoint ⟨table, htable, hid, -⟩
    rw [← hprojected, ← hid]
    exact List.mem_map_of_mem htable
  have hstart : RelationshipChanges.Linked changes.projected
      (surviving matching.gone diagram.relationships) {} :=
    ⟨fun _ hmem => absurd hmem List.not_mem_nil, fun _ hmem => absurd hmem List.not_mem_nil⟩
  have hlinked : RelationshipChanges.Linked changes.projected
      (surviving matching.gone diagram.relationships)
      ⟨plan.updatedRelationships, plan.createdRelationships⟩ :=
    hstart.declareAll (fun _ _ _ hsome => existingRelationship?_mem hsome) _ 0
  constructor
  · intro update hupdate
    obtain ⟨-, happly⟩ := hlinked.updated update hupdate
    obtain ⟨hsource, htarget⟩ :=
      happly (Relationship.new (supply.get 0) "" ⟨(supply.get 0).id, (supply.get 0).id, none⟩
        ⟨(supply.get 0).id, (supply.get 0).id, none⟩)
    constructor
    · intro endpoint hgiven
      simp only [Relationship.apply, hgiven, Option.getD_some] at hsource
      exact hstands endpoint hsource
    · intro endpoint hgiven
      simp only [Relationship.apply, hgiven, Option.getD_some] at htarget
      exact hstands endpoint htarget
  · intro relationship hmem
    obtain ⟨hsource, htarget⟩ := hlinked.created relationship hmem
    exact ⟨hstands _ hsource, hstands _ htarget⟩

end Reconciliation

/-! ## Edits -/

/-- What an edit passes in is new, and the links that it adds or patches name present tables.  The
session itself takes new identifiers. -/
def Edit.Joins (session : Session κ) (diagram : Diagram κ) : Edit κ → Prop
  | mutate mutation => mutation.PassesNew diagram ∧ mutation.Among diagram.tableIds
  | _ => session.supply.Unused diagram

theorem Edit.Joins.allowed {session : Session κ} {diagram : Diagram κ} {edit : Edit κ}
    (hloaded : session.diagram? = some diagram) (hlinked : diagram.Linked)
    (h : edit.Joins session diagram) : edit.Allowed session := by
  have hsame : ∀ other, session.diagram? = some other → other = diagram :=
    fun other hother => Option.some.inj (hother.symm.trans hloaded)
  cases edit with
  | mutate mutation =>
      intro other hother
      rw [hsame other hother]
      exact h.1.admissible hlinked
  | _ =>
      intro other hother
      rw [hsame other hother]
      exact h

namespace Workspace

variable [Storage σ κ] {workspace : Workspace σ κ} {diagram : Diagram κ}

theorem planFor_among [Coordinate κ] {session : Session κ}
    (hloaded : session.diagram? = some diagram) (text : String) :
    (planFor session text).1.Among diagram := by
  rw [planFor_of_loaded hloaded]
  exact reconcile_among _ _ diagram

theorem performFor_linked {α : Type} {mutation : Mutation κ}
    (hloaded : workspace.session.diagram? = some diagram) (hlinked : diagram.Linked)
    (hamong : mutation.Among diagram.tableIds) (count : Nat) (entity : α) :
    ∃ after, (workspace.performFor count mutation entity).2.session.diagram? = some after ∧
      after.Linked :=
  exists_after_performFor hloaded hlinked (fun _ hchange _ =>
    Diagram.linked_touched.mpr (Mutation.change_linked hchange hlinked hamong)) count entity

theorem createRelationship_linked (hloaded : workspace.session.diagram? = some diagram)
    (hlinked : diagram.Linked) (source target : Identifier × Identifier) :
    ∃ after, (workspace.createRelationship source target).2.session.diagram? = some after ∧
      after.Linked := by
  have hstands : ∀ {endpoint : Endpoint}, endpoint.StandsAt diagram.tables →
      endpoint.tableId ∈ diagram.tableIds := by
    rintro endpoint ⟨table, htable, hid, -⟩
    rw [← hid]
    exact List.mem_map_of_mem htable
  rw [createRelationship]
  cases hsource : endAt workspace.session source.1 source.2 with
  | error error => exact ⟨diagram, hloaded, hlinked⟩
  | ok sourceEnd =>
      cases htarget : endAt workspace.session target.1 target.2 with
      | error error => exact ⟨diagram, hloaded, hlinked⟩
      | ok targetEnd =>
          obtain ⟨-, -, -, -, hsourceStands, -⟩ := exists_of_endAt hloaded hsource
          obtain ⟨-, -, -, -, htargetStands, -⟩ := exists_of_endAt hloaded htarget
          apply performFor_linked hloaded hlinked
          intro relationship hmem
          obtain rfl := List.mem_singleton.mp hmem
          exact ⟨hstands hsourceStands, hstands htargetStands⟩

theorem createDependency_linked (hloaded : workspace.session.diagram? = some diagram)
    (hlinked : diagram.Linked) (tableId dependentTableId : Identifier) :
    ∃ after, (workspace.createDependency tableId dependentTableId).2.session.diagram? =
      some after ∧ after.Linked := by
  have hpresent : ∀ {id table}, workspace.session.table? id = some table →
      id ∈ diagram.tableIds := by
    intro id table hfind
    rw [table?_of_loaded hloaded] at hfind
    have hid : table.id = id := key_of_find? hfind
    rw [← hid]
    exact List.mem_map_of_mem (List.mem_of_find?_eq_some hfind)
  rw [createDependency]
  cases htable : workspace.session.table? tableId with
  | none => exact ⟨diagram, hloaded, hlinked⟩
  | some table =>
      cases hdependent : workspace.session.table? dependentTableId with
      | none => exact ⟨diagram, hloaded, hlinked⟩
      | some dependent =>
          apply performFor_linked hloaded hlinked
          intro dependency hmem
          obtain rfl := List.mem_singleton.mp hmem
          exact ⟨hpresent htable, hpresent hdependent⟩

/-- An edit keeps a diagram linked. -/
theorem edit_linked [Coordinate κ] (hloaded : workspace.session.diagram? = some diagram)
    (hlinked : diagram.Linked) {edit : Edit κ} (h : edit.Joins workspace.session diagram) :
    ∃ after, (edit.run workspace).session.diagram? = some after ∧ after.Linked := by
  cases edit with
  | mutate mutation =>
      exact exists_after_perform hloaded hlinked (fun _ hchange _ =>
        Diagram.linked_touched.mpr (Mutation.change_linked hchange hlinked h.2)) true
  | createTable attributes =>
      apply performFor_linked hloaded hlinked
      exact trivial
  | createField tableId =>
      simp only [Edit.run, createField]
      split
      · exact ⟨diagram, hloaded, hlinked⟩
      · apply performFor_linked hloaded hlinked
        exact trivial
  | createIndex tableId =>
      simp only [Edit.run, createIndex]
      split
      · exact ⟨diagram, hloaded, hlinked⟩
      · apply performFor_linked hloaded hlinked
        exact trivial
  | createRelationship source target =>
      exact createRelationship_linked hloaded hlinked source target
  | createDependency tableId dependentTableId =>
      exact createDependency_linked hloaded hlinked tableId dependentTableId
  | applyText text =>
      rw [Edit.run, applyText_of_loaded hloaded]
      have hdrawn : (workspace.withSession (planFor workspace.session text).2).session.diagram? =
          some diagram := hloaded
      exact applyPlan_linked hdrawn hlinked (planFor_among hloaded text) true

/-! ## Runs -/

/-- The workspaces that a loaded one with a linked diagram becomes while everything is recorded.
Undo is followed where its writes were served. -/
inductive Joined [Coordinate κ] : Workspace σ κ → Prop
  | loaded {workspace : Workspace σ κ} {diagram : Diagram κ}
      (hloaded : workspace.session.diagram? = some diagram) (hlinked : diagram.Linked)
      (hhistory : workspace.session.history = History.empty) : Joined workspace
  | edited {workspace : Workspace σ κ} (hjoined : Joined workspace) (edit : Edit κ)
      (hjoins : ∀ diagram, workspace.session.diagram? = some diagram →
        edit.Joins workspace.session diagram) : Joined (edit.run workspace)
  | planned {workspace : Workspace σ κ} (hjoined : Joined workspace) (plan : Plan κ)
      (hspared : ∀ diagram, workspace.session.diagram? = some diagram →
        ∀ id ∈ plan.createdIds, diagram.Spares id)
      (hamong : ∀ diagram, workspace.session.diagram? = some diagram → plan.Among diagram) :
      Joined (workspace.applyPlan plan true).2
  | undone {workspace : Workspace σ κ} (hjoined : Joined workspace)
      (hserved : Served workspace.undo.1) : Joined workspace.undo.2
  | redone {workspace : Workspace σ κ} (hjoined : Joined workspace) : Joined workspace.redo.2

omit [Storage σ κ] in
/-- A recorded change of a linked diagram stays on a timeline of linked diagrams. -/
theorem Along.records_linked (h : Along Diagram.Linked workspace) {next : Workspace σ κ}
    (hrecords : workspace.Records next) {after : Diagram κ}
    (hafter : next.session.diagram? = some after) (hlinked : after.Linked) :
    Along Diagram.Linked next := by
  refine h.records hrecords fun other hother => ?_
  obtain rfl := Option.some.inj (hafter.symm.trans hother)
  exact hlinked

theorem Joined.along [Coordinate κ] (h : Joined workspace) : Along Diagram.Linked workspace := by
  induction h with
  | loaded hloaded hlinked hhistory => exact .of_load hloaded hhistory hlinked
  | edited _ edit hjoins ih =>
      obtain ⟨diagram, hloaded, hlinked⟩ := ih.present
      obtain ⟨after, hafter, hdone⟩ := edit_linked hloaded hlinked (hjoins diagram hloaded)
      have hallowed := (hjoins diagram hloaded).allowed hloaded hlinked
      exact ih.records_linked (edit_records ih.idle hallowed) hafter hdone
  | planned _ plan hspared hamong ih =>
      obtain ⟨diagram, hloaded, hlinked⟩ := ih.present
      obtain ⟨after, hafter, hdone⟩ :=
        applyPlan_linked hloaded hlinked (hamong diagram hloaded) true
      have hrecords := applyPlan_recorded _ hloaded ih.idle (hspared diagram hloaded)
      exact ih.records_linked hrecords hafter hdone
  | undone _ hserved ih => exact ih.undo hserved
  | redone _ ih => exact ih.redo

/-- In every workspace that a run leads to, both tables of every relationship and of every
dependency are there. -/
theorem Joined.diagram_linked [Coordinate κ] (h : Joined workspace)
    (hloaded : workspace.session.diagram? = some diagram) : diagram.Linked := by
  obtain ⟨present, hpresent, hlinked⟩ := h.along.present
  obtain rfl := Option.some.inj (hpresent.symm.trans hloaded)
  exact hlinked

/-! ## Two linked tables -/

/-- Two tables, one of which refers to the other one. -/
def linkedText : String :=
  "Table a \x7b\n\tid int\n\x7d\n\nTable b \x7b\n\tid int\n\x7d\n\nRel fk: N a.id, 1 b.id"

/-- The text is applied to a new diagram. -/
def linkedTables : Workspace (MemoryStorage Float) Float :=
  Edit.run opened (.applyText linkedText)

/-- The first table is removed, and it comes back. -/
theorem linkedTables_linked :
    let removed := Edit.run linkedTables (.mutate (.removeTables [Identifier.ofNat 2]))
    ∃ diagram, removed.undo.2.session.diagram? = some diagram ∧
      diagram.relationships.length = 1 ∧ diagram.Linked := by
  intro removed
  have hlinked : openedDiagram.Linked :=
    ⟨fun _ hmem => absurd hmem List.not_mem_nil, fun _ hmem => absurd hmem List.not_mem_nil⟩
  have hopened : Joined opened := .loaded (rfl : _ = some openedDiagram) hlinked rfl
  have hwritten : Joined linkedTables := by
    refine .edited hopened _ fun diagram hloaded => ?_
    obtain rfl := Option.some.inj hloaded
    exact .of_empty _ rfl rfl rfl
  have hremoved : Joined removed := .edited hwritten _ fun _ _ => ⟨trivial, trivial⟩
  have hserved : Served removed.undo.1 := by
    have hok : removed.undo.1.isOk = true := by decide +kernel
    intro error herror
    rw [herror] at hok
    cases hok
  have hlinks : (removed.undo.2.session.diagram?.map fun diagram =>
      diagram.relationships.length) = some 1 := by decide +kernel
  obtain ⟨diagram, hdiagram, hlength⟩ := Option.map_eq_some_iff.mp hlinks
  exact ⟨diagram, hdiagram, hlength,
    Joined.diagram_linked (.undone hremoved hserved) hdiagram⟩

end Workspace

end SchemaDiagram
