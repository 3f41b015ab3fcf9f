import SchemaDiagram.Proofs.Reconciliation.Tracking
import SchemaDiagram.Proofs.Session.Effect
import SchemaDiagram.Storage.Memory

/-!
# Stored diagrams that mirror the one in memory

A stored diagram mirrors the one in memory if both agree but for the order of their lists.  Memory
is changed as a whole and the stored diagram write by write; as long as identifiers are distinct, no
write fails, and both agree again afterwards.
-/

namespace SchemaDiagram

variable {κ α : Type}

/-- Two diagrams hold the same entities, in whatever order. -/
structure Diagram.Alike (stored diagram : Diagram κ) : Prop where
  tables : stored.tables.Perm diagram.tables
  relationships : stored.relationships.Perm diagram.relationships
  dependencies : stored.dependencies.Perm diagram.dependencies

/-- Two diagrams agree but for the order of their lists. -/
structure Diagram.Mirrors (stored diagram : Diagram κ) : Prop extends stored.Alike diagram where
  summary : stored.summary = diagram.summary

theorem Diagram.Mirrors.refl (diagram : Diagram κ) : diagram.Mirrors diagram :=
  ⟨⟨.refl _, .refl _, .refl _⟩, rfl⟩

/-! ## Lists up to order -/

section Keys

variable {key : α → Identifier} {stored items : List α}

/-- Changing the item with an identifier does not depend on the order. -/
theorem updateFirst_perm (hperm : stored.Perm items) (hnodup : (items.map key).Nodup)
    {change : α → α} (id : Identifier) :
    (updateFirst (fun item => key item == id) change stored).Perm
      (updateFirst (fun item => key item == id) change items) := by
  have hmap : ∀ list : List α, (list.map key).Nodup →
      updateFirst (fun item => key item == id) change list =
        list.map fun item => if key item = id then change item else item := by
    intro list hlist
    simpa using updateFirst_map_key (f := fun item => item) (fun _ => rfl) hlist id
  rw [hmap items hnodup, hmap stored ((hperm.map key).nodup_iff.mpr hnodup)]
  exact hperm.map _

/-- What is found in the list of a diagram is stored under the same identifier. -/
theorem mem_key_of_find? (hperm : stored.Perm items) {id : Identifier} {item : α}
    (hfind : (items.find? fun item => key item == id) = some item) : id ∈ stored.map key := by
  rw [(hperm.map key).mem_iff, ← key_of_find? hfind]
  exact List.mem_map_of_mem (List.mem_of_find?_eq_some hfind)

theorem any_key_iff {id : Identifier} :
    (items.any fun item => key item == id) = true ↔ id ∈ items.map key := by
  simp [List.any_eq_true]

/-- Where identifiers are distinct, those of some items tell them apart from the others. -/
theorem filter_not_contains_key (hnodup : (items.map key).Nodup) (p : α → Bool) :
    (items.filter fun item => !((items.filter p).map key).contains (key item)) =
      items.filter fun item => !p item := by
  apply List.filter_congr
  intro item hitem
  congr 1
  rw [Bool.eq_iff_iff]
  simp only [List.contains_eq_mem, decide_eq_true_eq, List.mem_map, List.mem_filter]
  constructor
  · rintro ⟨other, ⟨hother, hp⟩, hsame⟩
    rwa [← eq_of_key hnodup hother hitem hsame]
  · intro hp
    exact ⟨item, ⟨hitem, hp⟩, rfl⟩

/-- Putting an item in place of the one with its identifier moves nothing else. -/
theorem updateFirst_const_perm (hnodup : (items.map key).Nodup) {item : α}
    (hmem : key item ∈ items.map key) :
    (updateFirst (fun other => key other == key item) (fun _ => item) items).Perm
      ((items.filter fun other => !(key other == key item)) ++ [item]) := by
  induction items with
  | nil => exact absurd hmem List.not_mem_nil
  | cons first rest ih =>
      rw [List.map_cons, List.nodup_cons] at hnodup
      obtain ⟨hfirst, hrest⟩ := hnodup
      by_cases hsame : key first = key item
      · have hothers : (rest.filter fun other => !(key other == key item)) = rest := by
          apply List.filter_eq_self.mpr
          intro other hother
          have hne : key other ≠ key item := by
            intro heq
            rw [hsame, ← heq] at hfirst
            exact hfirst (List.mem_map_of_mem hother)
          simpa using hne
        rw [updateFirst, if_pos (beq_iff_eq.mpr hsame),
          List.filter_cons_of_neg (by simp [hsame]), hothers]
        exact (List.perm_append_singleton item rest).symm
      · have hlater : key item ∈ rest.map key :=
          (List.mem_cons.mp hmem).resolve_left (Ne.symm hsame)
        rw [updateFirst, if_neg (by simpa using hsame),
          List.filter_cons_of_pos (by simpa using hsame)]
        exact (ih hrest hlater).cons first

end Keys

/-! ## Writes, one after another -/

namespace DiagramWrite

/-- What several writes make of a diagram, up to the first that fails. -/
def applyAll (diagram : Diagram κ) : List (DiagramWrite κ) → Except StorageError (Diagram κ)
  | [] => .ok diagram
  | write :: rest =>
    match write.apply diagram with
    | (.error error, _) => .error error
    | (.ok _, changed) => applyAll changed rest

theorem applyAll_cons {write : DiagramWrite κ} {rest : List (DiagramWrite κ)}
    {before between : Diagram κ} (hfirst : write.apply before = (.ok (), between)) :
    applyAll before (write :: rest) = applyAll between rest := by
  rw [applyAll, hfirst]

theorem applyAll_singleton {write : DiagramWrite κ} {before after : Diagram κ}
    (h : write.apply before = (.ok (), after)) : applyAll before [write] = .ok after :=
  applyAll_cons h

theorem applyAll_cons_eq_ok {write : DiagramWrite κ} {rest : List (DiagramWrite κ)}
    {before after : Diagram κ} (h : applyAll before (write :: rest) = .ok after) :
    ∃ between, write.apply before = (.ok (), between) ∧ applyAll between rest = .ok after := by
  rw [applyAll] at h
  split at h
  · cases h
  · next between hfirst => exact ⟨between, hfirst, h⟩

theorem applyAll_append {first second : List (DiagramWrite κ)} {before between after : Diagram κ}
    (hfirst : applyAll before first = .ok between)
    (hsecond : applyAll between second = .ok after) :
    applyAll before (first ++ second) = .ok after := by
  induction first generalizing before with
  | nil =>
      obtain rfl := Except.ok.inj hfirst
      exact hsecond
  | cons write rest ih =>
      obtain ⟨next, hwrite, hrest⟩ := applyAll_cons_eq_ok hfirst
      rw [List.cons_append, applyAll_cons hwrite]
      exact ih hrest

/-- A write stays within the diagram that it is addressed to. -/
@[simp] theorem id_apply (write : DiagramWrite κ) (diagram : Diagram κ) :
    (write.apply diagram).2.id = diagram.id := by
  cases write <;> rfl

theorem changeFirst_of_mem {key : α → Identifier} {items : List α} {id : Identifier}
    (hmem : id ∈ items.map key) (error : StorageError) (change : α → α) :
    changeFirst error (fun item => key item == id) change items =
      (.ok (), updateFirst (fun item => key item == id) change items) := by
  rw [changeFirst, if_pos (any_key_iff.mpr hmem)]

theorem removeAll_of_mem {key : α → Identifier} {items : List α} {id : Identifier}
    (hmem : id ∈ items.map key) (error : StorageError) :
    removeAll error (fun item => key item == id) items =
      (.ok (), items.filter fun item => !(key item == id)) := by
  have hshorter : (items.filter fun item => !(key item == id)).length ≠ items.length := by
    obtain ⟨item, hitem, rfl⟩ := List.mem_map.mp hmem
    intro hlength
    have hkept := List.length_filter_eq_length_iff.mp hlength item hitem
    simp at hkept
  rw [removeAll, if_neg hshorter]

/-! ## Adding and deleting parts -/

section Parts

variable {holding : List α → Diagram κ} {key : α → Identifier}

/-- Parts that are added one by one stand behind the others. -/
theorem applyAll_add {add : α → DiagramWrite κ}
    (hadd : ∀ items item, (add item).apply (holding items) = (.ok (), holding (items ++ [item])))
    (items more : List α) :
    applyAll (holding items) (more.map add) = .ok (holding (items ++ more)) := by
  induction more generalizing items with
  | nil =>
      rw [List.append_nil]
      rfl
  | cons item rest ih =>
      rw [List.map_cons, applyAll_cons (hadd items item), ih, ← List.append_cons]

/-- Deleting parts by distinct identifiers that are all there leaves the others. -/
theorem applyAll_delete {delete : Identifier → DiagramWrite κ}
    (hdelete : ∀ items id, id ∈ items.map key → (delete id).apply (holding items) =
      (.ok (), holding (items.filter fun item => !(key item == id))))
    {items : List α} {ids : List Identifier} (hids : ids.Nodup)
    (hlive : ∀ id ∈ ids, id ∈ items.map key) :
    applyAll (holding items) (ids.map delete) =
      .ok (holding (items.filter fun item => !ids.contains (key item))) := by
  induction ids generalizing items with
  | nil =>
      have hall : (items.filter fun item => !([] : List Identifier).contains (key item)) = items :=
        List.filter_eq_self.mpr fun _ _ => rfl
      rw [hall]
      rfl
  | cons id rest ih =>
      rw [List.nodup_cons] at hids
      have hrest : ∀ other ∈ rest,
          other ∈ (items.filter fun item => !(key item == id)).map key := by
        intro other hother
        obtain ⟨item, hitem, rfl⟩ := List.mem_map.mp (hlive other (List.mem_cons_of_mem _ hother))
        have hne : key item ≠ id := by
          rintro rfl
          exact hids.1 hother
        exact List.mem_map_of_mem (List.mem_filter.mpr ⟨hitem, by simpa using hne⟩)
      rw [List.map_cons, applyAll_cons (hdelete items id (hlive id List.mem_cons_self)),
        ih hids.2 hrest, List.filter_filter]
      congr 2
      apply List.filter_congr
      intro item _
      rw [List.contains_cons, Bool.not_or, Bool.and_comm]

/-- Deleting the parts that satisfy a predicate, told by their identifiers, from a list in another
order. -/
theorem applyAll_delete_filter {delete : Identifier → DiagramWrite κ}
    (hdelete : ∀ items id, id ∈ items.map key → (delete id).apply (holding items) =
      (.ok (), holding (items.filter fun item => !(key item == id))))
    {stored items : List α} (hperm : stored.Perm items) (hnodup : (items.map key).Nodup)
    (p : α → Bool) :
    ∃ left, applyAll (holding stored) (((items.filter p).map key).map delete) =
      .ok (holding left) ∧ left.Perm (items.filter fun item => !p item) := by
  refine ⟨_, applyAll_delete hdelete (Mutation.nodup_filter_key hnodup p) ?_, ?_⟩
  · intro id hid
    obtain ⟨item, hitem, rfl⟩ := List.mem_map.mp hid
    exact List.mem_map_of_mem (hperm.mem_iff.mpr (List.mem_filter.mp hitem).1)
  · rw [← filter_not_contains_key hnodup p]
    exact hperm.filter _

end Parts

section Apply

variable (diagram : Diagram κ)

theorem apply_updateTable {id : Identifier} (hmem : id ∈ diagram.tables.map Table.id)
    (patch : TablePatch κ) :
    (updateTable id patch).apply diagram = (.ok (), Mutation.replaceTables diagram
      (updateFirst (fun table => table.id == id) (fun table => table.apply patch)
        diagram.tables)) := by
  simp only [apply, Mutation.replaceTables, changeFirst_of_mem hmem]

theorem apply_updateRelationship {id : Identifier}
    (hmem : id ∈ diagram.relationships.map Relationship.id) (patch : RelationshipPatch) :
    (updateRelationship id patch).apply diagram = (.ok (), Mutation.withRelationships diagram
      (updateFirst (fun relationship => relationship.id == id)
        (fun relationship => relationship.apply patch) diagram.relationships)) := by
  simp only [apply, Mutation.withRelationships, changeFirst_of_mem hmem]

theorem apply_updateDependency {id : Identifier}
    (hmem : id ∈ diagram.dependencies.map Dependency.id) (patch : DependencyPatch) :
    (updateDependency id patch).apply diagram = (.ok (), Mutation.withDependencies diagram
      (updateFirst (fun dependency => dependency.id == id)
        (fun dependency => dependency.apply patch) diagram.dependencies)) := by
  simp only [apply, Mutation.withDependencies, changeFirst_of_mem hmem]

theorem apply_addTable (tables : List (Table κ)) (table : Table κ) :
    (addTable table).apply (Mutation.replaceTables diagram tables) =
      (.ok (), Mutation.replaceTables diagram (tables ++ [table])) := rfl

theorem apply_deleteTable (tables : List (Table κ)) (id : Identifier)
    (hmem : id ∈ tables.map Table.id) :
    (deleteTable id).apply (Mutation.replaceTables diagram tables) =
      (.ok (), Mutation.replaceTables diagram (tables.filter fun table => !(table.id == id))) := by
  simp only [apply, Mutation.replaceTables, removeAll_of_mem hmem]

theorem apply_addRelationship (relationships : List Relationship) (relationship : Relationship) :
    (addRelationship relationship).apply (Mutation.withRelationships diagram relationships) =
      (.ok (), Mutation.withRelationships diagram (relationships ++ [relationship])) := rfl

theorem apply_deleteRelationship (relationships : List Relationship) (id : Identifier)
    (hmem : id ∈ relationships.map Relationship.id) :
    (deleteRelationship id).apply (Mutation.withRelationships diagram relationships) =
      (.ok (), Mutation.withRelationships diagram
        (relationships.filter fun relationship => !(relationship.id == id))) := by
  simp only [apply, Mutation.withRelationships, removeAll_of_mem hmem]

theorem apply_addDependency (dependencies : List Dependency) (dependency : Dependency) :
    (addDependency dependency).apply (Mutation.withDependencies diagram dependencies) =
      (.ok (), Mutation.withDependencies diagram (dependencies ++ [dependency])) := rfl

theorem apply_deleteDependency (dependencies : List Dependency) (id : Identifier)
    (hmem : id ∈ dependencies.map Dependency.id) :
    (deleteDependency id).apply (Mutation.withDependencies diagram dependencies) =
      (.ok (), Mutation.withDependencies diagram
        (dependencies.filter fun dependency => !(dependency.id == id))) := by
  simp only [apply, Mutation.withDependencies, removeAll_of_mem hmem]

end Apply

/-! ## Putting tables -/

/-- A table that is put replaces the one with its identifier, or comes to the others. -/
theorem apply_putTable {stored : Diagram κ} (hnodup : (stored.tables.map Table.id).Nodup)
    (table : Table κ) :
    ∃ tables, (putTable table).apply stored = (.ok (), Mutation.replaceTables stored tables) ∧
      tables.Perm ((stored.tables.filter fun other => !(other.id == table.id)) ++ [table]) := by
  refine ⟨_, rfl, ?_⟩
  by_cases hmem : table.id ∈ stored.tables.map Table.id
  · rw [if_pos (any_key_iff.mpr hmem)]
    exact updateFirst_const_perm hnodup hmem
  · rw [if_neg (mt any_key_iff.mp hmem), List.filter_eq_self.mpr]
    intro other hother
    have hne : other.id ≠ table.id := by
      intro hsame
      rw [← hsame] at hmem
      exact hmem (List.mem_map_of_mem hother)
    simpa using hne

/-- Tables that are put take the place of those with their identifiers. -/
theorem applyAll_putTable {stored : Diagram κ} {after : List (Table κ)}
    (hnodup : (stored.tables.map Table.id).Nodup) (hafter : (after.map Table.id).Nodup) :
    ∃ tables, applyAll stored (after.map .putTable) =
        .ok (Mutation.replaceTables stored tables) ∧
      tables.Perm ((stored.tables.filter fun other =>
        !(after.any fun table => table.id == other.id)) ++ after) := by
  induction after generalizing stored with
  | nil => exact ⟨stored.tables, rfl, by simp⟩
  | cons table rest ih =>
      rw [List.map_cons, List.nodup_cons] at hafter
      obtain ⟨between, hput, hbetween⟩ := apply_putTable hnodup table
      have hdistinct : ((Mutation.replaceTables stored between).tables.map Table.id).Nodup := by
        rw [Mutation.replaceTables, (hbetween.map Table.id).nodup_iff, List.map_append,
          List.nodup_append]
        refine ⟨Mutation.nodup_filter_key hnodup _, List.nodup_singleton _, ?_⟩
        intro id hid other hother
        obtain ⟨old, hold, rfl⟩ := List.mem_map.mp hid
        obtain rfl := List.mem_singleton.mp hother
        simpa using (List.mem_filter.mp hold).2
      obtain ⟨tables, hrest, hperm⟩ := ih hdistinct hafter.2
      refine ⟨tables, (applyAll_cons hput).trans hrest, hperm.trans ?_⟩
      have hkept : (rest.any fun other => other.id == table.id) = false := by
        rw [← Bool.not_eq_true, any_key_iff]
        exact hafter.1
      have hfilter := (hbetween.filter fun other =>
        !(rest.any fun table => table.id == other.id)).append_right rest
      refine hfilter.trans ?_
      rw [List.filter_append, List.filter_cons_of_pos (by simp [hkept]), List.filter_nil,
        List.filter_filter, List.append_assoc, List.singleton_append]
      have hboth : (stored.tables.filter fun other =>
          !(rest.any fun table => table.id == other.id) && !(other.id == table.id)) =
          stored.tables.filter fun other =>
            !((table :: rest).any fun table => table.id == other.id) := by
        apply List.filter_congr
        intro other _
        rw [List.any_cons, Bool.not_or, Bool.and_comm, BEq.comm]
      rw [hboth]

/-- Putting the tables that are given and deleting those that vanish leaves the given ones. -/
theorem applyAll_setTables {stored : Diagram κ} {before after : List (Table κ)}
    (hperm : stored.tables.Perm before) (hbefore : (before.map Table.id).Nodup)
    (hafter : (after.map Table.id).Nodup) :
    ∃ tables, applyAll stored (after.map .putTable ++
        (Mutation.vanishing before after).map .deleteTable) =
          .ok (Mutation.replaceTables stored tables) ∧ tables.Perm after := by
  obtain ⟨placed, hput, hplaced⟩ := applyAll_putTable
    ((hperm.map Table.id).nodup_iff.mpr hbefore) hafter
  -- What is there besides the given tables are those that vanish.
  let gone : Table κ → Bool := fun old => !(after.any fun table => table.id == old.id)
  have hgone : ∀ table ∈ after, gone table = false := by
    intro table hmem
    simpa [gone] using ⟨table, hmem, rfl⟩
  have hall : placed.Perm (before.filter gone ++ after) :=
    hplaced.trans ((hperm.filter gone).append_right after)
  have hdistinct : ((before.filter gone ++ after).map Table.id).Nodup := by
    rw [List.map_append, List.nodup_append]
    refine ⟨Mutation.nodup_filter_key hbefore gone, hafter, ?_⟩
    intro id hid other hother
    obtain ⟨old, hmem, rfl⟩ := List.mem_map.mp hid
    obtain ⟨table, htable, rfl⟩ := List.mem_map.mp hother
    have hnone := (List.mem_filter.mp hmem).2
    simp only [gone, Bool.not_eq_true', List.any_eq_false, beq_iff_eq] at hnone
    exact fun hsame => hnone table htable hsame.symm
  have hnone : after.filter gone = [] := by
    apply List.filter_eq_nil_iff.mpr
    intro table hmem
    simp [hgone table hmem]
  have hrest : after.filter (fun table => !gone table) = after := by
    apply List.filter_eq_self.mpr
    intro table hmem
    simp [hgone table hmem]
  have htaken : (before.filter gone ++ after).filter gone = before.filter gone := by
    rw [List.filter_append, hnone, List.append_nil, List.filter_filter]
    simp only [Bool.and_self]
  have hleft : (before.filter gone ++ after).filter (fun table => !gone table) = after := by
    rw [List.filter_append, hrest, List.filter_filter]
    simp
  obtain ⟨tables, hdeleted, htables⟩ := applyAll_delete_filter
    (apply_deleteTable (Mutation.replaceTables stored placed)) hall hdistinct gone
  rw [htaken] at hdeleted
  rw [hleft] at htables
  exact ⟨tables, applyAll_append hput hdeleted, htables⟩

/-! ## The writes of a change -/

/-- The writes that delete detached links leave the links that were not detached. -/
theorem applyAll_deletions {diagram stored : Diagram κ} (hdistinct : diagram.Distinct)
    (hrelationships : stored.relationships.Perm diagram.relationships)
    (hdependencies : stored.dependencies.Perm diagram.dependencies) (ids : List Identifier) :
    ∃ after, applyAll stored (Mutation.detachLinks diagram ids).1.deletions = .ok after ∧
      after.summary = stored.summary ∧ after.tables = stored.tables ∧
      after.relationships.Perm (Mutation.detachLinks diagram ids).2.relationships ∧
      after.dependencies.Perm (Mutation.detachLinks diagram ids).2.dependencies := by
  obtain ⟨relationships, hfirst, hleft⟩ := applyAll_delete_filter
    (apply_deleteRelationship stored) hrelationships hdistinct.relationships
    fun relationship => relationship.touchesAny ids
  obtain ⟨dependencies, hsecond, hright⟩ := applyAll_delete_filter
    (apply_deleteDependency (Mutation.withRelationships stored relationships)) hdependencies
    hdistinct.dependencies fun dependency => dependency.touchesAny ids
  refine ⟨Mutation.withDependencies (Mutation.withRelationships stored relationships)
    dependencies, ?_, rfl, rfl, ?_, ?_⟩
  · rw [DetachedLinks.deletions, Mutation.detachLinks_eq]
    dsimp only
    rw [← map_key_takePositioned, List.map_map] at hfirst hsecond
    exact applyAll_append hfirst hsecond
  · rw [Mutation.detachLinks_eq]
    dsimp only
    rw [takePositioned_snd]
    exact hleft
  · rw [Mutation.detachLinks_eq]
    dsimp only
    rw [takePositioned_snd]
    exact hright

/-- Writes make a stored diagram hold the same as a given diagram, and leave its summary alone. -/
def Yield (writes : List (DiagramWrite κ)) (stored diagram : Diagram κ) : Prop :=
  ∃ after, applyAll stored writes = .ok after ∧ after.summary = stored.summary ∧
    after.Alike diagram

section Yield

variable {diagram stored : Diagram κ}

/-! ### Tables -/

theorem yield_addTables (halike : stored.Alike diagram) {placed tables : List (Table κ)}
    (hplaced : placed.Perm (diagram.tables ++ tables)) :
    Yield (tables.map .addTable) stored { diagram with tables := placed } :=
  ⟨_, applyAll_add (apply_addTable stored) stored.tables tables, rfl,
    (halike.tables.append_right tables).trans hplaced.symm, halike.relationships,
    halike.dependencies⟩

theorem yield_removeTables (hdistinct : diagram.Distinct) (halike : stored.Alike diagram)
    (ids : List Identifier) :
    Yield ((Mutation.detachLinks diagram (Mutation.present diagram ids)).1.deletions ++
      (Mutation.present diagram ids).map .deleteTable) stored
        (Mutation.withoutTables diagram ids) := by
  obtain ⟨unlinked, hlinks, hsummary, hkept, hleft, hright⟩ := applyAll_deletions hdistinct
    halike.relationships halike.dependencies (Mutation.present diagram ids)
  have htables : unlinked.tables.Perm diagram.tables := hkept ▸ halike.tables
  obtain ⟨left, hdeleted, hperm⟩ := applyAll_delete_filter (apply_deleteTable unlinked)
    htables hdistinct.tables fun table => ids.contains table.id
  rw [Mutation.withoutTables, map_key_takePositioned, takePositioned_snd]
  exact ⟨_, applyAll_append hlinks hdeleted, hsummary, hperm, hleft, hright⟩

theorem yield_updateTable (hdistinct : diagram.Distinct) (halike : stored.Alike diagram)
    {id : Identifier} {table : Table κ} (hfind : diagram.table? id = some table)
    (patch : TablePatch κ) :
    Yield [.updateTable id patch] stored { diagram with
      tables := updateFirst (fun table => table.id == id) (fun table => table.apply patch)
        diagram.tables } :=
  ⟨_, applyAll_singleton (apply_updateTable stored (mem_key_of_find? halike.tables hfind) patch),
    rfl, updateFirst_perm halike.tables hdistinct.tables id, halike.relationships,
    halike.dependencies⟩

theorem yield_setTables (hdistinct : diagram.Distinct) (halike : stored.Alike diagram)
    {after : List (Table κ)} (hafter : (after.map Table.id).Nodup) :
    Yield (after.map .putTable ++ (Mutation.vanishing diagram.tables after).map .deleteTable ++
      (Mutation.detachLinks diagram (Mutation.vanishing diagram.tables after)).1.deletions) stored
        (Mutation.withTables diagram after) := by
  obtain ⟨tables, hset, hperm⟩ := applyAll_setTables halike.tables hdistinct.tables hafter
  have hlinked : (Mutation.replaceTables stored tables).relationships.Perm
      diagram.relationships := halike.relationships
  obtain ⟨unlinked, hlinks, hsummary, hkept, hleft, hright⟩ := applyAll_deletions hdistinct
    hlinked halike.dependencies (Mutation.vanishing diagram.tables after)
  have htables : unlinked.tables.Perm after := hkept ▸ hperm
  exact ⟨unlinked, applyAll_append hset hlinks, hsummary, htables, hleft, hright⟩

/-! ### Relationships -/

theorem yield_addRelationships (halike : stored.Alike diagram)
    {placed relationships : List Relationship}
    (hplaced : placed.Perm (diagram.relationships ++ relationships)) :
    Yield (relationships.map .addRelationship) stored
      { diagram with relationships := placed } :=
  ⟨_, applyAll_add (apply_addRelationship stored) stored.relationships relationships, rfl,
    halike.tables, (halike.relationships.append_right relationships).trans hplaced.symm,
    halike.dependencies⟩

theorem yield_removeRelationships (hdistinct : diagram.Distinct) (halike : stored.Alike diagram)
    (ids : List Identifier) :
    Yield (((diagram.relationships.filter fun item => ids.contains item.id).map
      Relationship.id).map .deleteRelationship) stored { diagram with
        relationships := diagram.relationships.filter fun item => !ids.contains item.id } := by
  obtain ⟨left, hdeleted, hperm⟩ := applyAll_delete_filter (apply_deleteRelationship stored)
    halike.relationships hdistinct.relationships fun relationship => ids.contains relationship.id
  exact ⟨_, hdeleted, rfl, halike.tables, hperm, halike.dependencies⟩

theorem yield_updateRelationship (hdistinct : diagram.Distinct) (halike : stored.Alike diagram)
    {id : Identifier} {relationship : Relationship}
    (hfind : diagram.relationship? id = some relationship) (patch : RelationshipPatch) :
    Yield [.updateRelationship id patch] stored { diagram with
      relationships := updateFirst (fun relationship => relationship.id == id)
        (fun relationship => relationship.apply patch) diagram.relationships } :=
  ⟨_, applyAll_singleton
      (apply_updateRelationship stored (mem_key_of_find? halike.relationships hfind) patch),
    rfl, halike.tables, updateFirst_perm halike.relationships hdistinct.relationships id,
    halike.dependencies⟩

/-! ### Dependencies -/

theorem yield_addDependencies (halike : stored.Alike diagram)
    {placed dependencies : List Dependency}
    (hplaced : placed.Perm (diagram.dependencies ++ dependencies)) :
    Yield (dependencies.map .addDependency) stored { diagram with dependencies := placed } :=
  ⟨_, applyAll_add (apply_addDependency stored) stored.dependencies dependencies, rfl,
    halike.tables, halike.relationships,
    (halike.dependencies.append_right dependencies).trans hplaced.symm⟩

theorem yield_removeDependencies (hdistinct : diagram.Distinct) (halike : stored.Alike diagram)
    (ids : List Identifier) :
    Yield (((diagram.dependencies.filter fun item => ids.contains item.id).map
      Dependency.id).map .deleteDependency) stored { diagram with
        dependencies := diagram.dependencies.filter fun item => !ids.contains item.id } := by
  obtain ⟨left, hdeleted, hperm⟩ := applyAll_delete_filter (apply_deleteDependency stored)
    halike.dependencies hdistinct.dependencies fun dependency => ids.contains dependency.id
  exact ⟨_, hdeleted, rfl, halike.tables, halike.relationships, hperm⟩

theorem yield_updateDependency (hdistinct : diagram.Distinct) (halike : stored.Alike diagram)
    {id : Identifier} {dependency : Dependency}
    (hfind : diagram.dependency? id = some dependency) (patch : DependencyPatch) :
    Yield [.updateDependency id patch] stored { diagram with
      dependencies := updateFirst (fun dependency => dependency.id == id)
        (fun dependency => dependency.apply patch) diagram.dependencies } :=
  ⟨_, applyAll_singleton
      (apply_updateDependency stored (mem_key_of_find? halike.dependencies hfind) patch),
    rfl, halike.tables, halike.relationships,
    updateFirst_perm halike.dependencies hdistinct.dependencies id⟩

end Yield

/-! ### Every change -/

/-- Where identifiers are distinct, the writes of a change make a stored diagram hold what the
change makes of the one in memory. -/
theorem yield_writes {diagram stored : Diagram κ} {mutation : Mutation κ} {change : Change κ}
    (heffect : mutation.Effect diagram change) (hdistinct : diagram.Distinct)
    (hafter : change.diagram.Distinct) (halike : stored.Alike diagram) :
    Yield change.writes stored change.diagram := by
  cases heffect with
  | renamed name hdiagram hname hwrites hstep =>
      rw [hwrites, hdiagram]
      exact ⟨stored, rfl, rfl, halike.tables, halike.relationships, halike.dependencies⟩
  | tablesAdded placed tables hdiagram hplaced hnew hname hwrites hstep =>
      rw [hwrites, hdiagram]
      exact yield_addTables halike hplaced
  | tablesRemoved ids hdiagram hname hwrites hstep =>
      rw [hwrites, hdiagram]
      exact yield_removeTables hdistinct halike ids
  | tableChanged id patch table hfind hdiagram hname hwrites hstep =>
      rw [hwrites, hdiagram]
      exact yield_updateTable hdistinct halike hfind patch
  | tablesSet after links hdiagram hnew hname hwrites hstep =>
      rw [hdiagram] at hafter
      rw [hwrites, hdiagram]
      exact yield_setTables hdistinct halike hafter.tables
  | relationshipsAdded placed relationships hdiagram hplaced hnew hname hwrites hstep =>
      rw [hwrites, hdiagram]
      exact yield_addRelationships halike hplaced
  | relationshipsRemoved ids hdiagram hname hwrites hstep =>
      rw [hwrites, hdiagram]
      exact yield_removeRelationships hdistinct halike ids
  | relationshipChanged id patch relationship hfind hdiagram hname hwrites hstep =>
      rw [hwrites, hdiagram]
      exact yield_updateRelationship hdistinct halike hfind patch
  | dependenciesAdded placed dependencies hdiagram hplaced hnew hname hwrites hstep =>
      rw [hwrites, hdiagram]
      exact yield_addDependencies halike hplaced
  | dependenciesRemoved ids hdiagram hname hwrites hstep =>
      rw [hwrites, hdiagram]
      exact yield_removeDependencies hdistinct halike ids
  | dependencyChanged id patch dependency hfind hdiagram hname hwrites hstep =>
      rw [hwrites, hdiagram]
      exact yield_updateDependency hdistinct halike hfind patch

end DiagramWrite

/-! ## Writing to a storage in memory -/

namespace MemoryStorage

/-- A storage that serves writes and holds a diagram. -/
structure Serves (storage : MemoryStorage κ) (stored : Diagram κ) : Prop where
  enabled : storage.writesDisabled = false
  found : storage.find? stored.id = some stored

/-- A diagram that is put into a storage is found there. -/
theorem find?_insert (storage : MemoryStorage κ) (diagram : Diagram κ) :
    (storage.insert diagram).find? diagram.id = some diagram := by
  rw [find?, insert]
  by_cases hthere : (storage.diagrams.any fun other => other.id == diagram.id) = true
  · rw [if_pos hthere]
    obtain ⟨other, hother⟩ := Option.isSome_iff_exists.mp (List.find?_isSome.mpr
      (List.any_eq_true.mp hthere))
    exact find?_updateFirst hother (beq_self_eq_true diagram.id)
  · rw [if_neg hthere]
    have hnone : storage.diagrams.find? (fun other => other.id == diagram.id) = none := by
      rw [List.find?_eq_none]
      exact fun other hother hsame => hthere (List.any_eq_true.mpr ⟨other, hother, hsame⟩)
    simp [List.find?_append, hnone]

/-- A diagram that is put into a storage is held by it. -/
theorem serves_insert {storage : MemoryStorage κ} (henabled : storage.writesDisabled = false)
    (diagram : Diagram κ) : (storage.insert diagram).Serves diagram :=
  ⟨henabled, storage.find?_insert diagram⟩

/-- A write that a stored diagram takes is served, and the diagram is changed. -/
theorem Serves.write {storage : MemoryStorage κ} {stored after : Diagram κ}
    {write : DiagramWrite κ} (h : storage.Serves stored)
    (hafter : write.apply stored = (.ok (), after)) :
    ∃ next, Storage.write storage (Write.within stored.id write) = (.ok (), next) ∧
      next.Serves after := by
  obtain ⟨henabled, hfound⟩ := h
  have hid : after.id = stored.id := by
    rw [← DiagramWrite.id_apply write stored, hafter]
  refine ⟨{ storage with
    diagrams := updateFirst (fun other => other.id == stored.id) (fun _ => after)
      storage.diagrams }, ?_, henabled, ?_⟩
  · change storage.write _ = _
    rw [MemoryStorage.write, if_neg (by simp [henabled])]
    simp only [writeWithin, hfound, hafter]
  · rw [hid]
    exact find?_updateFirst hfound (by simp [hid])

theorem Serves.writeAll {storage : MemoryStorage κ} {stored after : Diagram κ}
    {writes : List (DiagramWrite κ)} (h : storage.Serves stored)
    (hafter : DiagramWrite.applyAll stored writes = .ok after) :
    ∃ last, Storage.writeAll storage (writes.map (.within stored.id)) = (.ok (), last) ∧
      last.Serves after := by
  induction writes generalizing storage stored with
  | nil =>
      obtain rfl := Except.ok.inj hafter
      exact ⟨storage, rfl, h⟩
  | cons write rest ih =>
      obtain ⟨between, hfirst, hafter⟩ := DiagramWrite.applyAll_cons_eq_ok hafter
      have hid : between.id = stored.id := by
        rw [← DiagramWrite.id_apply write stored, hfirst]
      obtain ⟨next, hwrite, hserves⟩ := h.write hfirst
      obtain ⟨last, hrest, hlast⟩ := ih hserves hafter
      rw [hid] at hrest
      refine ⟨last, ?_, hlast⟩
      rw [List.map_cons, Storage.writeAll, hwrite]
      dsimp only
      rw [hrest]
      rfl

end MemoryStorage

end SchemaDiagram
