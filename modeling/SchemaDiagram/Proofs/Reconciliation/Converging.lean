import SchemaDiagram.Proofs.Reconciliation.Matching
import SchemaDiagram.Proofs.Reconciliation.Rebuilt
import SchemaDiagram.Proofs.Reconciliation.Tracking

/-!
# What a plan aims at

For every declaration a plan aims at one entity that is what the declaration says.  The projected
tables are what updating the tables that are left and adding the created ones leads to, and up to
order they are the tables aimed at; the same goes for relationships.
-/

namespace SchemaDiagram

open Reconciliation

variable {κ : Type}

/-! ## Tables -/

/-- An update that does not move a table and seems to change nothing changes nothing. -/
theorem Table.apply_eq_of_beq [BEq κ] {table : Table κ} {patch : TablePatch κ}
    (hposition : patch.position = none) (h : (table.apply patch == table) = true) :
    table.apply patch = table := by
  obtain ⟨id, name, schema, fields, indexes, color, x, y, isView, comment, createdAt⟩ := table
  change instBEqTable.beq _ _ = true at h
  simp_all [instBEqTable.beq, Table.apply]

namespace Reconciliation

/-- A declaration stands for no table and creates one, or it leaves its table as it is, or it
updates its table. -/
theorem TableChanges.declare_cases [Coordinate κ] (live : List (Table κ)) (supply : Supply)
    (changes : TableChanges κ) (declaration : TableDeclaration) :
    (existingTable? live declaration = none ∧
        changes.declare live supply declaration =
          { changes with
            projected := changes.projected ++ [newTable supply declaration]
            created := changes.created ++ [newTable supply declaration] }) ∨
      ∃ table, existingTable? live declaration = some table ∧
        ((table.apply (tablePatch (supply.drop 1) declaration table) = table ∧
            changes.declare live supply declaration = changes) ∨
          changes.declare live supply declaration =
            { changes with
              projected := updateFirst (fun other => other.id == table.id)
                (fun _ => table.apply (tablePatch (supply.drop 1) declaration table))
                changes.projected
              updated := changes.updated ++
                [(table.id, tablePatch (supply.drop 1) declaration table)] }) := by
  cases hexisting : existingTable? live declaration with
  | none => exact .inl ⟨rfl, by simp only [TableChanges.declare, hexisting]⟩
  | some table =>
      refine .inr ⟨table, rfl, ?_⟩
      simp only [TableChanges.declare, hexisting]
      split
      · next hsame => exact .inl ⟨Table.apply_eq_of_beq rfl hsame, rfl⟩
      · exact .inr rfl

/-- What is known when the declarations in `done` have been taken into account. -/
structure TableChanges.Follows (live kept : List (Table κ)) (done : List TableDeclaration)
    (changes : TableChanges κ) (targets : List (Table κ)) : Prop where
  tracks : ∃ rebuilt, Tracks Table.id Table.apply kept changes.updated changes.created
    (done.filterMap (existingTable? live)) targets rebuilt
  settled : List.Forall₂ Table.Settled targets done
  projected : changes.projected =
    updateAll Table.id Table.apply kept changes.updated ++ changes.created
  unmoved : ∀ update ∈ changes.updated, update.2.position = none

namespace TableChanges

variable {live kept targets : List (Table κ)} {done : List TableDeclaration}
  {changes : TableChanges κ} {declaration : TableDeclaration}

theorem Follows.declare [Coordinate κ] (h : changes.Follows live kept done targets)
    (hids : (kept.map Table.id).Nodup) (hregular : declaration.Regular)
    (hstands : ∀ table, existingTable? live declaration = some table →
      table ∈ kept ∧ table ∉ done.filterMap (existingTable? live)) (supply : Supply) :
    ∃ more, (changes.declare live supply declaration).Follows live kept (done ++ [declaration])
      more := by
  obtain ⟨rebuilt, htracks⟩ := h.tracks
  have hsettled : ∀ {target : Table κ}, target.Settled declaration →
      List.Forall₂ Table.Settled (targets ++ [target]) (done ++ [declaration]) :=
    fun htarget => List.rel_append h.settled (.cons htarget .nil)
  rcases changes.declare_cases live supply declaration with
    ⟨hnone, heq⟩ | ⟨table, hsome, hcases⟩
  · refine ⟨targets ++ [newTable supply declaration], ⟨rebuilt, ?_⟩,
      hsettled (settled_newTable hregular supply), ?_, ?_⟩
    · rw [heq, List.filterMap_append, List.filterMap_cons_none hnone, List.filterMap_nil,
        List.append_nil]
      exact htracks.create _
    · rw [heq, h.projected, List.append_assoc]
    · rw [heq]
      exact h.unmoved
  · obtain ⟨hkept, hnew⟩ := hstands table hsome
    have htarget := settled_apply_tablePatch hregular (supply.drop 1) table
    have hstood : (done ++ [declaration]).filterMap (existingTable? live) =
        done.filterMap (existingTable? live) ++ [table] := by
      rw [List.filterMap_append, List.filterMap_cons_some hsome, List.filterMap_nil]
    rcases hcases with ⟨hsame, heq⟩ | heq
    · rw [hsame] at htarget
      refine ⟨targets ++ [table], ⟨rebuilt, ?_⟩, hsettled htarget, ?_, ?_⟩
      · rw [heq, hstood]
        exact htracks.same hkept hnew
      · rw [heq, h.projected]
      · rw [heq]
        exact h.unmoved
    · have hfind := htracks.find?_updateAll hids hkept hnew
      obtain ⟨again, hupdate⟩ :=
        htracks.update hids hkept hnew (tablePatch (supply.drop 1) declaration table) rfl
      refine ⟨_, ⟨again, ?_⟩, hsettled htarget, ?_, ?_⟩
      · rw [heq, hstood]
        exact hupdate
      · rw [heq, updateAll_append, ← updateFirst_append hfind, h.projected]
        refine updateFirst_congr ?_ rfl
        rw [List.find?_append, hfind, Option.some_or]
      · rw [heq]
        intro update hmem
        rcases List.mem_append.mp hmem with hold | hlast
        · exact h.unmoved update hold
        · rw [List.mem_singleton.mp hlast]
          rfl

/-- What is known when all declarations have been taken into account. -/
theorem Follows.declareAll [Coordinate κ] (hids : (kept.map Table.id).Nodup)
    {rest : List TableDeclaration} (hregular : ∀ declaration ∈ rest, declaration.Regular)
    (hkept : ∀ table ∈ rest.filterMap (existingTable? live), table ∈ kept)
    (hnodup : ((done ++ rest).filterMap (existingTable? live)).Nodup)
    (h : changes.Follows live kept done targets) (supply : Supply) :
    ∃ more, (declareAll live supply changes rest).Follows live kept (done ++ rest) more := by
  induction rest generalizing done changes targets supply with
  | nil =>
      rw [List.append_nil]
      exact ⟨targets, h⟩
  | cons declaration rest ih =>
      obtain ⟨more, hnext⟩ := h.declare hids (hregular declaration List.mem_cons_self)
        (stands_of_nodup hkept hnodup) supply
      have hsplit : done ++ declaration :: rest = (done ++ [declaration]) ++ rest := by simp
      rw [hsplit] at hnodup ⊢
      exact ih (fun other hother => hregular other (List.mem_cons_of_mem _ hother))
        (fun table hmem => hkept table (mem_filterMap_cons hmem)) hnodup hnext _

end TableChanges

/-! ## Relationships -/

theorem realizes_apply_relationshipPatch {tables : List (Table κ)}
    {declaration : RelationshipDeclaration} {source target : Endpoint}
    (hends : resolveEnds? tables declaration = some (source, target)) (link : Relationship) :
    (link.apply (relationshipPatch declaration source target)).Realizes tables declaration :=
  ⟨rfl, hends, rfl, rfl⟩

/-- A declaration between known ends stands for no relationship and creates one, or it leaves its
relationship as it is, or it updates its relationship. -/
theorem RelationshipChanges.declare_cases (tables : List (Table κ)) (live : List Relationship)
    (stamp : Stamp) (changes : RelationshipChanges) {declaration : RelationshipDeclaration}
    {source target : Endpoint}
    (hends : resolveEnds? tables declaration = some (source, target)) :
    (existingRelationship? live declaration = none ∧
        ∃ link : Relationship, link.Realizes tables declaration ∧
          changes.declare tables live stamp declaration =
            { changes with created := changes.created ++ [link] }) ∨
      ∃ link, existingRelationship? live declaration = some link ∧
        ((link.apply (relationshipPatch declaration source target) = link ∧
            changes.declare tables live stamp declaration = changes) ∨
          changes.declare tables live stamp declaration =
            { changes with
              updated := changes.updated ++
                [(link.id, relationshipPatch declaration source target)] }) := by
  cases hexisting : existingRelationship? live declaration with
  | none =>
      refine .inl ⟨rfl, (Relationship.new stamp declaration.name source target).withCardinality
        declaration.sourceCardinality declaration.targetCardinality, ⟨rfl, hends, rfl, rfl⟩, ?_⟩
      simp only [RelationshipChanges.declare, hends, hexisting]
  | some link =>
      refine .inr ⟨link, rfl, ?_⟩
      simp only [RelationshipChanges.declare, hends, hexisting]
      split
      · next hsame => exact .inl ⟨eq_of_beq hsame, rfl⟩
      · exact .inr rfl

/-- What is known when the declarations in `done` have been taken into account. -/
structure RelationshipChanges.Follows (tables : List (Table κ)) (live kept : List Relationship)
    (done : List RelationshipDeclaration) (changes : RelationshipChanges)
    (targets : List Relationship) : Prop where
  tracks : ∃ rebuilt, Tracks Relationship.id Relationship.apply kept changes.updated
    changes.created (done.filterMap (existingRelationship? live)) targets rebuilt
  realized : List.Forall₂ (Relationship.Realizes tables) targets done

namespace RelationshipChanges

variable {tables : List (Table κ)} {live kept targets : List Relationship}
  {done : List RelationshipDeclaration} {changes : RelationshipChanges}
  {declaration : RelationshipDeclaration}

theorem Follows.declare (h : changes.Follows tables live kept done targets)
    (hids : (kept.map Relationship.id).Nodup)
    (hends : (resolveEnds? tables declaration).isSome = true)
    (hstands : ∀ link, existingRelationship? live declaration = some link →
      link ∈ kept ∧ link ∉ done.filterMap (existingRelationship? live)) (stamp : Stamp) :
    ∃ more, (changes.declare tables live stamp declaration).Follows tables live kept
      (done ++ [declaration]) more := by
  obtain ⟨rebuilt, htracks⟩ := h.tracks
  obtain ⟨⟨source, target⟩, hends⟩ := Option.isSome_iff_exists.mp hends
  have hrealized : ∀ {link : Relationship}, link.Realizes tables declaration →
      List.Forall₂ (Relationship.Realizes tables) (targets ++ [link]) (done ++ [declaration]) :=
    fun hlink => List.rel_append h.realized (.cons hlink .nil)
  rcases changes.declare_cases tables live stamp hends with
    ⟨hnone, link, hlink, heq⟩ | ⟨link, hsome, hcases⟩
  · refine ⟨targets ++ [link], ⟨rebuilt, ?_⟩, hrealized hlink⟩
    rw [heq, List.filterMap_append, List.filterMap_cons_none hnone, List.filterMap_nil,
      List.append_nil]
    exact htracks.create link
  · obtain ⟨hkept, hnew⟩ := hstands link hsome
    have htarget := realizes_apply_relationshipPatch hends link
    have hstood : (done ++ [declaration]).filterMap (existingRelationship? live) =
        done.filterMap (existingRelationship? live) ++ [link] := by
      rw [List.filterMap_append, List.filterMap_cons_some hsome, List.filterMap_nil]
    rcases hcases with ⟨hsame, heq⟩ | heq
    · rw [hsame] at htarget
      refine ⟨targets ++ [link], ⟨rebuilt, ?_⟩, hrealized htarget⟩
      rw [heq, hstood]
      exact htracks.same hkept hnew
    · obtain ⟨again, hupdate⟩ :=
        htracks.update hids hkept hnew (relationshipPatch declaration source target) rfl
      refine ⟨_, ⟨again, ?_⟩, hrealized htarget⟩
      rw [heq, hstood]
      exact hupdate

/-- What is known when all declarations have been taken into account, wherever their stamps come
from. -/
theorem Follows.declareAll (hids : (kept.map Relationship.id).Nodup) (supply : Supply)
    {rest : List RelationshipDeclaration}
    (hends : ∀ declaration ∈ rest, (resolveEnds? tables declaration).isSome = true)
    (hkept : ∀ link ∈ rest.filterMap (existingRelationship? live), link ∈ kept)
    (hnodup : ((done ++ rest).filterMap (existingRelationship? live)).Nodup)
    (h : changes.Follows tables live kept done targets) (start : Nat) :
    ∃ more, Follows tables live kept (done ++ rest)
      ((rest.zipIdx start).foldl (fun changes (declaration, position) =>
        changes.declare tables live (supply.get position) declaration) changes) more := by
  induction rest generalizing done changes targets start with
  | nil =>
      rw [List.append_nil]
      exact ⟨targets, h⟩
  | cons declaration rest ih =>
      obtain ⟨more, hnext⟩ := h.declare hids (hends declaration List.mem_cons_self)
        (stands_of_nodup hkept hnodup) (supply.get start)
      have hsplit : done ++ declaration :: rest = (done ++ [declaration]) ++ rest := by simp
      rw [hsplit] at hnodup ⊢
      exact ih (fun other hother => hends other (List.mem_cons_of_mem _ hother))
        (fun link hmem => hkept link (mem_filterMap_cons hmem)) hnodup hnext (start + 1)

end RelationshipChanges

end Reconciliation

end SchemaDiagram
