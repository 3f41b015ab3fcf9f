import SchemaDiagram.Proofs.Reconciliation.Renamed

/-!
# Renamed relationships are recognised

Whoever renames relationships in the text of a model leaves the tables and the ends as they are.  A
relationship is hashed over the names that its ends lead to, and a declaration over the names in
its line; written from the model, these are the same.  So every relationship keeps a declaration,
and where no two of the renamed ones have the same hash, the new names are all that changes.
-/

namespace SchemaDiagram

open Reconciliation SchemaDiagram.Text

variable {κ : Type}

/-! ## Renaming relationships -/

def Relationship.withName (link : Relationship) (name : String) : Relationship :=
  { link with name := name }

/-- Relationships under the names that they are to have. -/
def renameLinks (newName : Relationship → String) (links : List Relationship) :
    List Relationship :=
  links.map fun link => link.withName (newName link)

section

variable {tables : List (Table κ)} {links : List Relationship} {newName : Relationship → String}

theorem NewNames.writable_renameLinks {dialect : Dialect}
    (h : NewNames Relationship.name links newName)
    (hwritable : SchemaText.Writable dialect tables links) :
    SchemaText.Writable dialect tables (renameLinks newName links) :=
  ⟨hwritable.tables, List.forall_mem_map.mpr (h.isWord_newName hwritable.relationships)⟩

theorem NewNames.regular_renameLinks [BEq κ] (h : NewNames Relationship.name links newName)
    (hregular : Regular tables links) : Regular tables (renameLinks newName links) := by
  refine ⟨hregular.tableIds, hregular.tableNames, ?_, hregular.tables, hregular.placed, ?_, ?_⟩
  · rw [renameLinks, List.map_map]
    exact h.nodup hregular.linkNames
  · exact List.forall_mem_map.mpr hregular.sources
  · exact List.forall_mem_map.mpr hregular.targets

/-- The hash of a declaration is that of the relationship it was written from. -/
theorem ofRelationship?_of_declared? {link : Relationship} {declaration : RelationshipDeclaration}
    (h : link.declared? tables = some declaration) :
    ContentHash.ofRelationship? link tables = some declaration.contentHash := by
  simp only [Relationship.declared?, Option.bind_eq_bind, Option.bind_eq_some_iff] at h
  obtain ⟨source, -, target, -, hash, hhash, hsame⟩ := h
  obtain rfl := Option.some.inj hsame
  exact hhash

end

namespace Reconciliation

/-! ## Declarations of renamed relationships -/

/-- What the text of the renamed relationships declares. -/
def linksDeclaredAs (newName : Relationship → String) (tables : List (Table κ))
    (links : List Relationship) : List RelationshipDeclaration :=
  (renameLinks newName links).filterMap (Relationship.declared? tables)

/-- A declaration stands for a relationship and says of it what there is, but for the name. -/
structure LinkRenames (tables : List (Table κ)) (live : List Relationship)
    (newName : Relationship → String) (declaration : RelationshipDeclaration)
    (link : Relationship) : Prop where
  stands : existingRelationship? live declaration = some link
  realizes : (link.withName (newName link)).Realizes tables declaration

/-- An update of a relationship that changes the name. -/
def IsLinkRename (newName : Relationship → String) (update : Identifier × RelationshipPatch)
    (link : Relationship) : Prop :=
  update.1 = link.id ∧ link.apply update.2 = link.withName (newName link)

section

variable [BEq κ] {tables : List (Table κ)} {links : List Relationship}
  {newName : Relationship → String} (hnew : NewNames Relationship.name links newName)
  (hregular : Regular tables links)

include hnew hregular

/-- Every relationship is declared, with its own hash and its new name. -/
theorem forall₂_linksDeclaredAs :
    List.Forall₂ (fun declaration link =>
      DeclaresAs (relationshipEntity tables) newName declaration link ∧
        (link.withName (newName link)).Realizes tables declaration)
      (linksDeclaredAs newName tables links) links := by
  rw [linksDeclaredAs, renameLinks, List.filterMap_map]
  refine List.Forall₂.flip (forall₂_filterMap fun link hlink => ?_)
  obtain ⟨declaration, hdeclared, hunattached, hrealizes⟩ :=
    (hnew.regular_renameLinks hregular).exists_declared (List.mem_map_of_mem hlink)
  have hrenamed := ofRelationship?_of_declared? hdeclared
  -- The hash does not depend on the name.
  have hhash : ContentHash.ofRelationship? link tables = some declaration.contentHash := hrenamed
  exact ⟨declaration, hdeclared, ⟨hrealizes.name.symm, hhash, hunattached⟩, hrealizes⟩

theorem forall₂_declaresAs_links :
    List.Forall₂ (DeclaresAs (relationshipEntity tables) newName)
      (linksDeclaredAs newName tables links) links :=
  (forall₂_linksDeclaredAs hnew hregular).imp fun _ _ h => h.1

/-- No renamed relationship is gone. -/
theorem matchRelationships_rescuing :
    (matchRelationships (linksDeclaredAs newName tables links) tables links).Rescuing
      (links.map (relationshipEntity tables)) (links.map (relationshipEntity tables))
      (linksDeclaredAs newName tables links) :=
  matchEntities_rescuing_of_newNames (forall₂_declaresAs_links hnew hregular) hnew
    hregular.linkNames

/-- Every declaration stands for a relationship. -/
theorem existingRelationship?_ne_none {declaration : RelationshipDeclaration}
    (hmem : declaration ∈
      (matchRelationships (linksDeclaredAs newName tables links) tables links).declarations) :
    existingRelationship? links declaration ≠ none :=
  standsFor?_ne_none_of_newNames (forall₂_declaresAs_links hnew hregular) hnew
    hregular.linkNames hmem

/-- Where no two renamed relationships have the same hash, each declaration stands for the
relationship that it was written from. -/
theorem forall₂_linkRenames (hids : (links.map Relationship.id).Nodup)
    (hhashes : ((links.filter fun link => newName link != link.name).map fun link =>
      ContentHash.ofRelationship? link tables).Nodup) :
    List.Forall₂ (LinkRenames tables links newName)
      (matchRelationships (linksDeclaredAs newName tables links) tables links).declarations
      links := by
  have hdeclared := forall₂_declaresAs_links hnew hregular
  have hattached := forall₂_mem (matchRelationships_rescuing hnew hregular).attached
  refine forall₂_trans ?_ hattached (forall₂_mem (forall₂_linksDeclaredAs hnew hregular))
  rintro declaration original link ⟨hmem, -, hsame⟩ ⟨-, hlink, horiginal, hrealizes⟩
  refine ⟨?_, ?_⟩
  · exact standsFor?_of_newNames hdeclared hnew hregular.linkNames hids hhashes hmem hlink hsame
      horiginal
  · rcases hsame with rfl | ⟨id, rfl⟩
    · exact hrealizes
    · exact ⟨hrealizes.name, hrealizes.ends, hrealizes.sourceCardinality,
        hrealizes.targetCardinality⟩

end

/-! ## Changes of renamed relationships -/

/-- Nothing is created if every declaration stands for a relationship. -/
theorem RelationshipChanges.created_declare_of_existing {tables : List (Table κ)}
    {live : List Relationship} {declaration : RelationshipDeclaration}
    (h : existingRelationship? live declaration ≠ none) (stamp : Stamp)
    (changes : RelationshipChanges) :
    (changes.declare tables live stamp declaration).created = changes.created := by
  obtain ⟨link, hlink⟩ := Option.ne_none_iff_exists'.mp h
  rw [declare, hlink]
  split
  · rfl
  · dsimp only
    split
    · rfl
    · rfl

theorem reconcileRelationships_created {tables : List (Table κ)} {live : List Relationship}
    {matching : Matching RelationshipDeclaration}
    (h : ∀ declaration ∈ matching.declarations, existingRelationship? live declaration ≠ none)
    (supply : Supply) : (reconcileRelationships supply matching tables live).created = [] := by
  have hfold : ∀ entries : List (RelationshipDeclaration × Nat),
      (∀ entry ∈ entries, entry.1 ∈ matching.declarations) → ∀ changes : RelationshipChanges,
        (entries.foldl (fun changes entry =>
          changes.declare tables live (supply.get entry.2) entry.1) changes).created =
            changes.created := by
    intro entries hentries
    induction entries with
    | nil => exact fun _ => rfl
    | cons entry rest ih =>
        intro changes
        rw [List.foldl_cons, ih fun other hother => hentries other (List.mem_cons_of_mem _ hother)]
        exact RelationshipChanges.created_declare_of_existing
          (h _ (hentries entry List.mem_cons_self)) _ changes
  exact hfold _ (fun entry hentry => List.fst_mem_of_mem_zipIdx hentry) {}

section

variable {tables : List (Table κ)} {live links : List Relationship}
  {newName : Relationship → String} {declaration : RelationshipDeclaration} {link : Relationship}

/-- What a declaration makes of its relationship. -/
theorem LinkRenames.apply_relationshipPatch
    (h : LinkRenames tables live newName declaration link) :
    link.apply (relationshipPatch declaration link.source link.target) =
      link.withName (newName link) :=
  h.realizes.apply_relationshipPatch

/-- A relationship is updated exactly if it is to have another name. -/
theorem LinkRenames.declare (h : LinkRenames tables live newName declaration link)
    (stamp : Stamp) (changes : RelationshipChanges) :
    changes.declare tables live stamp declaration =
      if newName link = link.name then changes
      else { changes with
        updated := changes.updated ++
          [(link.id, relationshipPatch declaration link.source link.target)] } := by
  have hends : resolveEnds? tables declaration = some (link.source, link.target) :=
    h.realizes.ends
  have hsame : (link.withName (newName link) == link) = decide (newName link = link.name) := by
    rw [Bool.eq_iff_iff, beq_iff_eq, decide_eq_true_iff]
    constructor
    · exact fun heq => congrArg Relationship.name heq
    · intro heq
      rw [heq]
      rfl
  simp only [RelationshipChanges.declare, hends, h.stands, h.apply_relationshipPatch, hsame,
    decide_eq_true_eq]

/-- Every relationship that is to have another name is updated, in order. -/
theorem foldl_declare_of_linkRenames {declarations : List RelationshipDeclaration}
    (h : List.Forall₂ (LinkRenames tables live newName) declarations links) (supply : Supply)
    (start : Nat) (changes : RelationshipChanges) :
    ∃ updates, List.Forall₂ (IsLinkRename newName) updates
        (links.filter fun link => newName link != link.name) ∧
      (declarations.zipIdx start).foldl (fun changes (declaration, position) =>
          changes.declare tables live (supply.get position) declaration) changes =
        { changes with updated := changes.updated ++ updates } := by
  induction h generalizing start changes with
  | nil => exact ⟨[], .nil, by simp⟩
  | @cons declaration link declarations links hfirst _ ih =>
      rw [List.zipIdx_cons, List.foldl_cons]
      dsimp only
      rw [hfirst.declare]
      by_cases hkept : newName link = link.name
      · rw [if_pos hkept, List.filter_cons_of_neg (by simpa using hkept)]
        exact ih (start + 1) changes
      · obtain ⟨updates, hupdates, hall⟩ := ih (start + 1)
          { changes with
            updated := changes.updated ++
              [(link.id, relationshipPatch declaration link.source link.target)] }
        rw [if_neg hkept, List.filter_cons_of_pos (by simpa using hkept), hall]
        refine ⟨(link.id, relationshipPatch declaration link.source link.target) :: updates,
          .cons ⟨rfl, hfirst.apply_relationshipPatch⟩ hupdates, ?_⟩
        simp only [List.append_assoc, List.cons_append, List.nil_append]

end

/-! ## The plan -/

/-- Where the tables are declared as they are, only relationships change. -/
theorem reconcile_of_declared_tables [Coordinate κ] {tables : List (Table κ)}
    {links : List Relationship} (hregular : Regular tables links)
    (declarations : List RelationshipDeclaration) (supply : Supply) :
    let matching := matchRelationships declarations tables links
    let changes := reconcileRelationships (supply.drop (tablesStamps (tables.map Table.declared)))
      matching tables links
    reconcile supply ⟨tables.map Table.declared, declarations⟩ tables links =
      { deletedRelationships := matching.gone
        updatedRelationships := changes.updated
        createdRelationships := changes.created } := by
  intro matching changes
  have htables : matchTables (tables.map Table.declared) tables =
      ⟨tables.map Table.declared, []⟩ := by
    apply matchEntities_of_named
    exact List.forall_mem_map.mpr fun table htable =>
      ⟨table.declared, List.mem_map_of_mem htable, rfl⟩
  have hlive : (tables.filter fun table => !([] : List Identifier).contains table.id) =
      tables := by
    simp
  have hsame : ∀ declaration ∈ tables.map Table.declared, ∃ table,
      existingTable? tables declaration = some table ∧
        ∀ supply, (table.apply (tablePatch supply declaration table) == table) = true := by
    refine List.forall_mem_map.mpr fun table htable =>
      ⟨table, find?_key hregular.tableNames htable, fun supply => ?_⟩
    have hsettled := (hregular.tables table htable).settled
    rw [hsettled.apply_tablePatch (hregular.tables table htable).regular_declared]
    exact (hregular.placed table htable).beq_self
  have hkept := TableChanges.declareAll_of_kept hsame
  have hleft : surviving [] links = links := by
    simp [surviving, Relationship.touchesAny]
  simp only [reconcile, htables, reconcileTables, hlive, hkept, hleft]
  rfl

/-- Renaming relationships in the text of a model changes no table, and deletes and creates no
relationship.  Where the renamed relationships have distinct hashes, it only updates the names of
these relationships. -/
theorem reconcile_renamedLinks [Coordinate κ] (dialect : Dialect) (tables : List (Table κ))
    (relationships : List Relationship) (supply : Supply) (newName : Relationship → String)
    (hwritable : SchemaText.Writable dialect tables relationships)
    (hregular : Regular tables relationships)
    (hids : (relationships.map Relationship.id).Nodup)
    (hnew : NewNames Relationship.name relationships newName) :
    let text := SchemaText.generate tables (renameLinks newName relationships)
    let plan := reconcile supply (SchemaText.parse dialect text) tables relationships
    let renamed := relationships.filter fun link => newName link != link.name
    (plan.deletedTables = [] ∧ plan.updatedTables = [] ∧ plan.createdTables = [] ∧
      plan.deletedRelationships = [] ∧ plan.createdRelationships = []) ∧
      ((renamed.map fun link => ContentHash.ofRelationship? link tables).Nodup →
        ∃ updates, List.Forall₂ (IsLinkRename newName) updates renamed ∧
          plan = { updatedRelationships := updates }) := by
  intro text plan renamed
  have hparsed : SchemaText.parse dialect text =
      ⟨tables.map Table.declared, linksDeclaredAs newName tables relationships⟩ :=
    SchemaText.parse_generate dialect tables _ (hnew.writable_renameLinks hwritable)
  let matching := matchRelationships (linksDeclaredAs newName tables relationships) tables
    relationships
  let left := supply.drop (tablesStamps (tables.map Table.declared))
  have hplan : plan =
      { deletedRelationships := matching.gone
        updatedRelationships := (reconcileRelationships left matching tables relationships).updated
        createdRelationships :=
          (reconcileRelationships left matching tables relationships).created } := by
    rw [← reconcile_of_declared_tables hregular _ supply, ← hparsed]
  have hgone : matching.gone = [] := (matchRelationships_rescuing hnew hregular).gone
  have hcreated : (reconcileRelationships left matching tables relationships).created = [] :=
    reconcileRelationships_created
      (fun _ hmem => existingRelationship?_ne_none hnew hregular hmem) left
  rw [hplan]
  refine ⟨⟨rfl, rfl, rfl, hgone, hcreated⟩, fun hhashes => ?_⟩
  obtain ⟨updates, hupdates, hchanges⟩ := foldl_declare_of_linkRenames
    (forall₂_linkRenames hnew hregular hids hhashes) left 0 {}
  refine ⟨updates, hupdates, ?_⟩
  rw [hgone, reconcileRelationships, hchanges]
  rfl

/-! ## Two relationships renamed at once -/

/-- A relationship between the keys of the tables with notes. -/
def keyLink : Relationship :=
  Relationship.new ⟨⟨9⟩, ⟨0, 0⟩, ""⟩ "keys" ⟨⟨8⟩, ⟨1⟩, some "shop"⟩ (Endpoint.new ⟨3⟩ ⟨1⟩)

/-- New names for both relationships. -/
def linkNames (link : Relationship) : String :=
  if link.name = "Rel" then "buyer" else "owner"

theorem regular_linked : Regular [notedTable, schemaTable] [notedLink, keyLink] := by
  refine ⟨regular_noted.tableIds, regular_noted.tableNames, by decide, regular_noted.tables,
    regular_noted.placed, ?_, ?_⟩
  · refine List.forall_mem_cons.mpr ⟨regular_noted.sources _ List.mem_cons_self, ?_⟩
    exact List.forall_mem_singleton.mpr
      ⟨schemaTable, List.mem_cons_of_mem _ List.mem_cons_self, rfl, rfl, by decide⟩
  · refine List.forall_mem_cons.mpr ⟨regular_noted.targets _ List.mem_cons_self, ?_⟩
    exact List.forall_mem_singleton.mpr ⟨notedTable, List.mem_cons_self, rfl, rfl, by decide⟩

theorem reconcile_linkNames :
    let text := SchemaText.generate [notedTable, schemaTable]
      (renameLinks linkNames [notedLink, keyLink])
    let plan := reconcile countingSupply (SchemaText.parse .generic text)
      [notedTable, schemaTable] [notedLink, keyLink]
    plan.deletedRelationships = [] ∧ plan.createdRelationships = [] ∧
      ∃ updates, List.Forall₂ (IsLinkRename linkNames) updates [notedLink, keyLink] ∧
        plan = { updatedRelationships := updates } := by
  intro text plan
  have hwritable : SchemaText.Writable .generic [notedTable, schemaTable] [notedLink, keyLink] :=
    ⟨writable_noted.tables, by
      rw [List.forall_mem_cons, List.forall_mem_singleton]
      exact ⟨by decide, by decide⟩⟩
  have hnew : NewNames Relationship.name [notedLink, keyLink] linkNames := by
    refine ⟨?_, ?_, ?_⟩
    · rw [List.forall_mem_cons, List.forall_mem_singleton]
      exact ⟨fun _ => by decide, fun _ => by decide⟩
    · rintro first hfirst second hsecond - -
      rcases List.mem_pair.mp hfirst with rfl | rfl <;>
        rcases List.mem_pair.mp hsecond with rfl | rfl
      · exact fun _ => rfl
      · exact fun hsame => absurd hsame (by decide)
      · exact fun hsame => absurd hsame (by decide)
      · exact fun _ => rfl
    · rw [List.forall_mem_cons, List.forall_mem_singleton]
      exact ⟨fun _ => by decide, fun _ => by decide⟩
  obtain ⟨⟨-, -, -, hdeleted, hcreated⟩, hupdated⟩ :=
    reconcile_renamedLinks .generic [notedTable, schemaTable] [notedLink, keyLink]
      countingSupply linkNames hwritable regular_linked (by decide) hnew
  exact ⟨hdeleted, hcreated, hupdated (by decide +kernel)⟩

end Reconciliation

end SchemaDiagram
