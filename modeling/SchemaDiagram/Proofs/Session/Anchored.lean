import SchemaDiagram.Proofs.Reconciliation.Valid
import SchemaDiagram.Proofs.Session.Converged
import SchemaDiagram.Proofs.Session.Reached
import SchemaDiagram.Proofs.Session.Tidy

/-!
# Relationships that lose a field

A relationship is anchored if both of its ends name a table and a field of it.  Whatever a text
creates or updates is anchored afterwards, and relationships at deleted tables go with them.  But a
relationship whose line is still there is neither deleted nor updated if an end of the line cannot
be resolved any more.  It is then left between its old ends, and if the text took the field of one
of them out of its table, the relationship dangles.
-/

namespace SchemaDiagram

open Reconciliation

variable {σ κ : Type}

/-! ## Anchored relationships -/

/-- An end names a table that is there and a field of it. -/
def Endpoint.AnchoredAt (tables : List (Table κ)) (endpoint : Endpoint) : Prop :=
  ∃ table ∈ tables, table.id = endpoint.tableId ∧ endpoint.fieldId ∈ table.fields.map Field.id

/-- Both ends name a table that is there and a field of it. -/
def Relationship.Anchored (tables : List (Table κ)) (link : Relationship) : Prop :=
  link.source.AnchoredAt tables ∧ link.target.AnchoredAt tables

instance (tables : List (Table κ)) (endpoint : Endpoint) :
    Decidable (endpoint.AnchoredAt tables) :=
  inferInstanceAs (Decidable (∃ table ∈ tables, table.id = endpoint.tableId ∧
    endpoint.fieldId ∈ table.fields.map Field.id))

instance (tables : List (Table κ)) (link : Relationship) : Decidable (link.Anchored tables) :=
  inferInstanceAs (Decidable (_ ∧ _))

theorem Endpoint.StandsAt.anchoredAt {tables : List (Table κ)} {endpoint : Endpoint}
    (h : endpoint.StandsAt tables) : endpoint.AnchoredAt tables := by
  obtain ⟨table, hmem, hid, -, hfield⟩ := h
  exact ⟨table, hmem, hid, hfield⟩

theorem Relationship.Stands.anchored {tables : List (Table κ)} {link : Relationship}
    (h : link.Stands tables) : link.Anchored tables :=
  ⟨h.1.anchoredAt, h.2.anchoredAt⟩

/-- Moving tables neither anchors an end nor sets it adrift. -/
theorem Endpoint.anchoredAt_of_moved {ids : List Identifier} {before after : List (Table κ)}
    (h : List.Forall₂ (Table.Moved ids) before after) (endpoint : Endpoint) :
    endpoint.AnchoredAt after ↔ endpoint.AnchoredAt before := by
  constructor
  · rintro ⟨moved, hafter, hid, hfield⟩
    obtain ⟨table, hbefore, hmove⟩ := exists_left_of_mem h hafter
    obtain ⟨x, y, rfl⟩ := hmove.same
    exact ⟨table, hbefore, hid, hfield⟩
  · rintro ⟨table, hbefore, hid, hfield⟩
    obtain ⟨moved, hafter, hmove⟩ := exists_right_of_mem h hbefore
    obtain ⟨x, y, rfl⟩ := hmove.same
    exact ⟨_, hafter, hid, hfield⟩

theorem Relationship.anchored_of_moved {ids : List Identifier} {before after : List (Table κ)}
    (h : List.Forall₂ (Table.Moved ids) before after) (link : Relationship) :
    link.Anchored after ↔ link.Anchored before :=
  and_congr (Endpoint.anchoredAt_of_moved h _) (Endpoint.anchoredAt_of_moved h _)

namespace Reconciliation

/-! ## Which relationships are updated -/

section Declare

variable {tables : List (Table κ)} {live : List Relationship} {changes : RelationshipChanges}

/-- A declaration between known ends that stands for a relationship updates it, or the relationship
is between these ends already. -/
theorem RelationshipChanges.declare_updates {declaration : RelationshipDeclaration}
    {link : Relationship} {source target : Endpoint} (stamp : Stamp)
    (hsome : existingRelationship? live declaration = some link)
    (hends : resolveEnds? tables declaration = some (source, target)) :
    link.id ∈ (changes.declare tables live stamp declaration).updated.map Prod.fst ∨
      link.source = source ∧ link.target = target := by
  rcases changes.declare_cases tables live stamp hends with
    ⟨hnone, -⟩ | ⟨other, hother, ⟨hsame, -⟩ | heq⟩
  · rw [hnone] at hsome
    cases hsome
  · obtain rfl := Option.some.inj (hother.symm.trans hsome)
    refine .inr ⟨?_, ?_⟩
    · exact (congrArg Relationship.source hsame).symm
    · exact (congrArg Relationship.target hsame).symm
  · obtain rfl := Option.some.inj (hother.symm.trans hsome)
    rw [heq, List.map_append]
    exact .inl (List.mem_append_right _ (List.mem_singleton_self _))

/-- Every update is there already, or its declaration stands for a relationship and has known
ends. -/
theorem RelationshipChanges.mem_updated_declare {declaration : RelationshipDeclaration}
    {stamp : Stamp} {update : Identifier × RelationshipPatch}
    (h : update ∈ (changes.declare tables live stamp declaration).updated) :
    update ∈ changes.updated ∨ ∃ link, existingRelationship? live declaration = some link ∧
      update.1 = link.id ∧ resolveEnds? tables declaration ≠ none := by
  cases hends : resolveEnds? tables declaration with
  | none =>
      simp only [RelationshipChanges.declare, hends] at h
      exact .inl h
  | some ends =>
      rcases changes.declare_cases tables live stamp hends with
        ⟨-, link, -, heq⟩ | ⟨link, hsome, ⟨-, heq⟩ | heq⟩
      · rw [heq] at h
        exact .inl h
      · rw [heq] at h
        exact .inl h
      · rw [heq] at h
        rcases List.mem_append.mp h with hold | hnew
        · exact .inl hold
        · obtain rfl := List.mem_singleton.mp hnew
          exact .inr ⟨link, hsome, rfl, Option.some_ne_none ends⟩

theorem RelationshipChanges.updated_subset_declare (declaration : RelationshipDeclaration)
    (stamp : Stamp) :
    changes.updated ⊆ (changes.declare tables live stamp declaration).updated := by
  cases hends : resolveEnds? tables declaration with
  | none =>
      simp only [RelationshipChanges.declare, hends]
      exact List.Subset.refl _
  | some ends =>
      rcases changes.declare_cases tables live stamp hends with
        ⟨-, link, -, heq⟩ | ⟨link, -, ⟨-, heq⟩ | heq⟩
      · rw [heq]
        exact List.Subset.refl _
      · rw [heq]
        exact List.Subset.refl _
      · rw [heq]
        exact List.subset_append_left _ _

end Declare

/-- What a run over declarations updates, in terms of what it started from. -/
theorem RelationshipChanges.updated_declareAll (tables : List (Table κ))
    (live : List Relationship) (supply : Supply) (declarations : List RelationshipDeclaration)
    (changes : RelationshipChanges) (start : Nat) :
    let after := (declarations.zipIdx start).foldl (fun changes (declaration, position) =>
      changes.declare tables live (supply.get position) declaration) changes
    changes.updated ⊆ after.updated ∧
      (∀ declaration ∈ declarations, ∀ link source target,
        existingRelationship? live declaration = some link →
          resolveEnds? tables declaration = some (source, target) →
            link.id ∈ after.updated.map Prod.fst ∨ link.source = source ∧ link.target = target) ∧
      ∀ update ∈ after.updated, update ∈ changes.updated ∨ ∃ declaration ∈ declarations, ∃ link,
        existingRelationship? live declaration = some link ∧ update.1 = link.id ∧
          resolveEnds? tables declaration ≠ none := by
  induction declarations generalizing changes start with
  | nil =>
      exact ⟨List.Subset.refl _, fun _ hmem => absurd hmem List.not_mem_nil, fun _ => .inl⟩
  | cons declaration rest ih =>
      obtain ⟨hsub, hcovers, hfrom⟩ :=
        ih (changes.declare tables live (supply.get start) declaration) (start + 1)
      refine ⟨?_, ?_, ?_⟩
      · exact List.Subset.trans (changes.updated_subset_declare declaration _) hsub
      · intro other hother link source target hsome hends
        rcases List.mem_cons.mp hother with rfl | hrest
        · refine (changes.declare_updates (supply.get start) hsome hends).imp_left fun hnow => ?_
          exact List.map_subset Prod.fst hsub hnow
        · exact hcovers other hrest link source target hsome hends
      · intro update hupdate
        rcases hfrom update hupdate with hold | ⟨other, hother, hrest⟩
        · rcases RelationshipChanges.mem_updated_declare hold with hbefore | hnow
          · exact .inl hbefore
          · exact .inr ⟨declaration, List.mem_cons_self, hnow⟩
        · exact .inr ⟨other, List.mem_cons_of_mem _ hother, hrest⟩

/-! ## Forsaken relationships -/

/-- An item that no update is for is kept as it is. -/
theorem mem_updateAll_of_not_mem {α π : Type} {key : α → Identifier} {apply : α → π → α}
    {items : List α} {updates : List (Identifier × π)} {item : α} (hmem : item ∈ items)
    (h : key item ∉ updates.map Prod.fst) : item ∈ updateAll key apply items updates := by
  induction updates generalizing items with
  | nil => exact hmem
  | cons update rest ih =>
      rw [List.map_cons, List.mem_cons, not_or] at h
      rcases mem_updateFirst_of_mem hmem with hkept | ⟨hfind, -⟩
      · exact ih hkept h.2
      · exact absurd (key_of_find? hfind) h.1

/-- The relationships that are compared with the declared ones: those at deleted tables are gone. -/
def comparedLinks (schema : DeclaredSchema) (live : List (Table κ))
    (linked : List Relationship) : List Relationship :=
  surviving (matchTables schema.tables live).gone linked

/-- The tables as they will be. -/
def projectedTables [Coordinate κ] (supply : Supply) (schema : DeclaredSchema)
    (live : List (Table κ)) : List (Table κ) :=
  (reconcileTables supply (matchTables schema.tables live) live).projected

/-- The declared relationships, those recognised as renamed with the old ones attached. -/
def comparedDeclarations (schema : DeclaredSchema) (live : List (Table κ))
    (linked : List Relationship) : List RelationshipDeclaration :=
  (matchRelationships schema.relationships live (comparedLinks schema live linked)).declarations

/-- A schema forsakes a relationship: neither the relationship nor one of its tables is deleted, no
declaration that stands for the relationship has ends that are known among the tables as they will
be, and at one of its ends the table is still there, but not the field. -/
structure Forsakes [Coordinate κ] (supply : Supply) (schema : DeclaredSchema)
    (live : List (Table κ)) (linked : List Relationship) (link : Relationship) : Prop where
  compared : link ∈ comparedLinks schema live linked
  kept : link.id ∉ (reconcile supply schema live linked).deletedRelationships
  unresolved : ∀ declaration ∈ comparedDeclarations schema live linked,
    existingRelationship? (comparedLinks schema live linked) declaration = some link →
      resolveEnds? (projectedTables supply schema live) declaration = none
  lost : ∃ endpoint ∈ [link.source, link.target],
    endpoint.tableId ∈ (projectedTables supply schema live).map Table.id ∧
      ¬endpoint.AnchoredAt (projectedTables supply schema live)

section Reconcile

variable [Coordinate κ] {schema : DeclaredSchema} (hread : schema.AsRead) {live : List (Table κ)}
  {linked : List Relationship} (hids : (live.map Table.id).Nodup)
  (hlinks : (linked.map Relationship.id).Nodup) (supply : Supply)

include hread hids in
/-- A table that is not deleted is among the tables as they will be. -/
theorem mem_projectedTables_ids {id : Identifier} (hlive : id ∈ live.map Table.id)
    (hkept : id ∉ (matchTables schema.tables live).gone) :
    id ∈ (projectedTables supply schema live).map Table.id := by
  rw [projectedTables, (reconcileTables_predicted hread hids supply).projected, List.map_append,
    map_updateAll fun _ _ _ => rfl]
  obtain ⟨table, hmem, rfl⟩ := List.mem_map.mp hlive
  exact List.mem_append_left _
    (List.mem_map_of_mem (List.mem_filter.mpr ⟨hmem, by simpa using hkept⟩))

include hread hids in
/-- The tables of a relationship that is compared are still there. -/
theorem ends_mem_projectedTables {link : Relationship} (hanchored : link.Anchored live)
    (hcompared : link ∈ comparedLinks schema live linked) :
    link.source.tableId ∈ (projectedTables supply schema live).map Table.id ∧
      link.target.tableId ∈ (projectedTables supply schema live).map Table.id := by
  have huntouched := (List.mem_filter.mp hcompared).2
  simp only [Relationship.touchesAny, Bool.not_eq_true', Bool.or_eq_false_iff,
    List.contains_eq_mem, decide_eq_false_iff_not] at huntouched
  obtain ⟨⟨source, hsource, hsourceId, -⟩, ⟨target, htarget, htargetId, -⟩⟩ := hanchored
  constructor
  · exact mem_projectedTables_ids hread hids supply
      (hsourceId ▸ List.mem_map_of_mem hsource) huntouched.1
  · exact mem_projectedTables_ids hread hids supply
      (htargetId ▸ List.mem_map_of_mem htarget) huntouched.2

/-- What a plan updates, told from the declarations. -/
theorem updatedRelationships_declared (schema : DeclaredSchema) (live : List (Table κ))
    (linked : List Relationship) :
    (∀ declaration ∈ comparedDeclarations schema live linked, ∀ link source target,
      existingRelationship? (comparedLinks schema live linked) declaration = some link →
        resolveEnds? (projectedTables supply schema live) declaration = some (source, target) →
          link.id ∈ (reconcile supply schema live linked).updatedRelationships.map Prod.fst ∨
            link.source = source ∧ link.target = target) ∧
      ∀ update ∈ (reconcile supply schema live linked).updatedRelationships,
        ∃ declaration ∈ comparedDeclarations schema live linked, ∃ link,
          existingRelationship? (comparedLinks schema live linked) declaration = some link ∧
            update.1 = link.id ∧
              resolveEnds? (projectedTables supply schema live) declaration ≠ none := by
  obtain ⟨-, hcovers, hfrom⟩ := RelationshipChanges.updated_declareAll
    (projectedTables supply schema live) (comparedLinks schema live linked)
    (supply.drop (tablesStamps schema.tables)) (comparedDeclarations schema live linked) {} 0
  refine ⟨hcovers, fun update hupdate => ?_⟩
  exact (hfrom update hupdate).resolve_left List.not_mem_nil

include hread hids in
/-- A relationship that is compared and not updated, and that a plan leaves adrift, is forsaken. -/
theorem forsakes_of_not_updated {link : Relationship} (hanchored : link.Anchored live)
    (hcompared : link ∈ comparedLinks schema live linked)
    (hkept : link.id ∉ (reconcile supply schema live linked).deletedRelationships)
    (huntouched :
      link.id ∉ (reconcile supply schema live linked).updatedRelationships.map Prod.fst)
    (hadrift : ¬link.Anchored (projectedTables supply schema live)) :
    Forsakes supply schema live linked link := by
  obtain ⟨hcovers, -⟩ := updatedRelationships_declared supply schema live linked
  obtain ⟨hsource, htarget⟩ := ends_mem_projectedTables hread hids supply hanchored hcompared
  refine ⟨hcompared, hkept, ?_, ?_⟩
  · intro declaration hdeclared hsome
    cases hends : resolveEnds? (projectedTables supply schema live) declaration with
    | none => rfl
    | some ends =>
        obtain ⟨source, target⟩ := ends
        rcases hcovers declaration hdeclared link source target hsome hends with
          hupdated | ⟨rfl, rfl⟩
        · exact absurd hupdated huntouched
        · obtain ⟨hstands, hstandsToo⟩ := standsAt_of_resolveEnds? hends
          exact absurd ⟨hstands.anchoredAt, hstandsToo.anchoredAt⟩ hadrift
  · by_cases hheld : link.source.AnchoredAt (projectedTables supply schema live)
    · exact ⟨link.target, by simp, htarget, fun hother => hadrift ⟨hheld, hother⟩⟩
    · exact ⟨link.source, by simp, hsource, hheld⟩

include hlinks in
/-- A forsaken relationship is not updated. -/
theorem Forsakes.not_updated {link : Relationship} (h : Forsakes supply schema live linked link) :
    link.id ∉ (reconcile supply schema live linked).updatedRelationships.map Prod.fst := by
  obtain ⟨-, hfrom⟩ := updatedRelationships_declared supply schema live linked
  intro hupdated
  obtain ⟨update, hupdate, hid⟩ := List.mem_map.mp hupdated
  obtain ⟨declaration, hdeclared, other, hsome, hother, hknown⟩ := hfrom update hupdate
  have hsame : other = link := eq_of_key (surviving_ids_nodup hlinks _)
    (existingRelationship?_mem hsome) h.compared (hother.symm.trans hid)
  exact hknown (h.unresolved declaration hdeclared (hsame ▸ hsome))

include hread hids hlinks in
/-- Where all relationships are anchored, the ones that a plan leaves adrift are the forsaken
ones. -/
theorem relationshipsAfter_adrift_iff (hanchored : ∀ link ∈ linked, link.Anchored live)
    (link : Relationship) :
    (link ∈ (reconcile supply schema live linked).relationshipsAfter linked ∧
        ¬link.Anchored (projectedTables supply schema live)) ↔
      Forsakes supply schema live linked link := by
  have hlinked := reconcile_linked hread live hlinks supply
  have hcompared : ((comparedLinks schema live linked).map Relationship.id).Nodup :=
    surviving_ids_nodup hlinks _
  constructor
  · rintro ⟨hmem, hadrift⟩
    rcases List.mem_append.mp hmem with hold | hcreated
    · have hkey : ∀ (link : Relationship) (patch : RelationshipPatch),
          (link.apply patch).id = link.id := fun _ _ => rfl
      rcases updateAll_touched hkey (hcompared.sublist (List.filter_sublist.map Relationship.id))
          (fun update hupdate => (hlinked.updated update hupdate).2) link hold with
        hstands | ⟨hkept, huntouched⟩
      · exact absurd hstands.anchored hadrift
      · obtain ⟨hmemCompared, hnotDeleted⟩ := List.mem_filter.mp hkept
        exact forsakes_of_not_updated hread hids supply
          (hanchored link (List.mem_filter.mp hmemCompared).1) hmemCompared
          (by simpa using hnotDeleted) huntouched hadrift
    · exact absurd (hlinked.created link hcreated).anchored hadrift
  · intro h
    constructor
    · apply List.mem_append_left
      apply mem_updateAll_of_not_mem _ (h.not_updated hlinks supply)
      exact List.mem_filter.mpr ⟨h.compared, by simpa using h.kept⟩
    · rintro ⟨hsource, htarget⟩
      obtain ⟨endpoint, hend, -, hlost⟩ := h.lost
      rcases List.mem_pair.mp hend with rfl | rfl
      · exact hlost hsource
      · exact hlost htarget

end Reconcile

end Reconciliation

/-! ## Texts -/

namespace Workspace

/-- Where all relationships are anchored before a text is applied, those that dangle afterwards are
the ones that the text forsakes, whatever the storage answers. -/
theorem applyText_adrift_iff [Storage σ κ] [Coordinate κ] {workspace : Workspace σ κ}
    {diagram : Diagram κ} (hloaded : workspace.session.diagram? = some diagram)
    (htables : (diagram.tables.map Table.id).Nodup)
    (hrelationships : (diagram.relationships.map Relationship.id).Nodup)
    (hanchored : ∀ link ∈ diagram.relationships, link.Anchored diagram.tables) (text : String) :
    ∃ after, (workspace.applyText text).2.session.diagram? = some after ∧
      ∀ link : Relationship,
        (link ∈ after.relationships ∧ ¬link.Anchored after.tables) ↔
          Forsakes workspace.session.supply (SchemaText.parse workspace.session.dialect text)
            diagram.tables diagram.relationships link := by
  have hread := SchemaText.asRead_parse workspace.session.dialect text
  have hshows : (workspace.withSession (planFor workspace.session text).2).Shows diagram.tables
      diagram.relationships := ⟨diagram, hloaded, rfl, rfl⟩
  have hlive := (planFor_grounded hloaded text).deletedTables
  obtain ⟨moved, ⟨after, hafter, rfl, hlinks⟩, hmoved⟩ := hshows.applyPlan hlive true
  rw [applyText_of_loaded hloaded]
  refine ⟨after, hafter, fun link => ?_⟩
  rw [planFor_of_loaded hloaded] at hlinks hmoved
  rw [tablesAfter_reconcile hread htables] at hmoved
  rw [hlinks, Relationship.anchored_of_moved hmoved]
  exact relationshipsAfter_adrift_iff hread htables hrelationships _ hanchored link

/-! ## A field that is taken from a relationship -/

/-- Two tables, and a relationship from the second field of one to the other. -/
def mooredText : String :=
  "Table a \x7b\n\tid int\n\tx int\n\x7d\n\nTable b \x7b\n\tid int\n\x7d\n\n" ++
    "Rel fk: N a.x, 1 b.id"

/-- The same text without the field. -/
def unmooredText : String :=
  "Table a \x7b\n\tid int\n\x7d\n\nTable b \x7b\n\tid int\n\x7d\n\nRel fk: N a.x, 1 b.id"

/-- A session in which the first text was applied. -/
def mooredTables : Workspace (MemoryStorage Float) Float :=
  (opened.applyText mooredText).2

theorem mooredTables_adrift :
    ∃ diagram after, mooredTables.session.diagram? = some diagram ∧
      diagram.relationships.length = 1 ∧
      (mooredTables.applyText unmooredText).2.session.diagram? = some after ∧
        ∀ link : Relationship,
          (link ∈ after.relationships ∧ ¬link.Anchored after.tables) ↔
            Forsakes mooredTables.session.supply
              (SchemaText.parse mooredTables.session.dialect unmooredText)
              diagram.tables diagram.relationships link := by
  have hloaded : mooredTables.session.diagram?.isSome = true := by decide +kernel
  obtain ⟨diagram, hdiagram⟩ := Option.isSome_iff_exists.mp hloaded
  have hcurrent : ∀ property : Diagram Float → Bool,
      mooredTables.session.diagram?.map property = some true → property diagram = true := by
    intro property hproperty
    rw [hdiagram] at hproperty
    exact Option.some.inj hproperty
  have htables := hcurrent (fun diagram => decide (diagram.tables.map Table.id).Nodup)
    (by decide +kernel)
  have hrelationships := hcurrent
    (fun diagram => decide (diagram.relationships.map Relationship.id).Nodup) (by decide +kernel)
  have hanchored := hcurrent
    (fun diagram => decide (∀ link ∈ diagram.relationships, link.Anchored diagram.tables))
    (by decide +kernel)
  have hlength := hcurrent (fun diagram => decide (diagram.relationships.length = 1))
    (by decide +kernel)
  obtain ⟨after, hafter, hadrift⟩ := applyText_adrift_iff hdiagram (of_decide_eq_true htables)
    (of_decide_eq_true hrelationships) (of_decide_eq_true hanchored) unmooredText
  exact ⟨diagram, after, hdiagram, of_decide_eq_true hlength, hafter, hadrift⟩

/-- Every relationship is anchored before the field is taken out of the text, and one dangles
afterwards. -/
theorem mooredTables_dangles :
    let before := mooredTables.session
    let after := (mooredTables.applyText unmooredText).2.session
    ((before.tables.map Table.id).Nodup ∧ (before.relationships.map Relationship.id).Nodup ∧
        ∀ link ∈ before.relationships, link.Anchored before.tables) ∧
      after.relationships.length = 1 ∧
        ∀ link ∈ after.relationships, ¬link.Anchored after.tables := by
  decide +kernel

end Workspace

end SchemaDiagram
