import Mathlib.Tactic.MkIffOfInductiveProp
import SchemaDiagram.Proofs.Reconciliation.Converging
import SchemaDiagram.Proofs.Reconciliation.Settled

/-!
# What carrying out a plan leads to

The changes of a plan, taken together, leave exactly one table for each declared table and exactly
one relationship for each declared relationship.  Where the created tables stand does not matter
here, nor does the session that carries the plan out.
-/

namespace SchemaDiagram

open Reconciliation

variable {κ : Type}

/-! ## Schemas and models that fit together -/

/-- Nothing is attached to the declarations yet, and declared keys are unique. -/
structure DeclaredSchema.AsRead (schema : DeclaredSchema) : Prop where
  newTables : ∀ table ∈ schema.tables, table.existingId = none
  newRelationships : ∀ relationship ∈ schema.relationships, relationship.existingId = none
  keysUnique : ∀ table ∈ schema.tables, ∀ field ∈ table.fields,
    field.primaryKey = true → field.unique = true

/-- The names in a schema are distinct, and the ends of its relationships are declared. -/
@[mk_iff] structure DeclaredSchema.Consistent (schema : DeclaredSchema) : Prop where
  tableNames : (schema.tables.map TableDeclaration.name).Nodup
  fieldNames : ∀ table ∈ schema.tables, table.fieldNames.Nodup
  indexNames : ∀ table ∈ schema.tables, (table.indexes.map IndexDeclaration.name).Nodup
  relationshipNames : (schema.relationships.map RelationshipDeclaration.name).Nodup
  sources : ∀ relationship ∈ schema.relationships, ∃ table ∈ schema.tables,
    table.name = relationship.sourceTable ∧ relationship.sourceField ∈ table.fieldNames
  targets : ∀ relationship ∈ schema.relationships, ∃ table ∈ schema.tables,
    table.name = relationship.targetTable ∧ relationship.targetField ∈ table.fieldNames

instance (schema : DeclaredSchema) : Decidable schema.Consistent :=
  decidable_of_iff' _ schema.consistent_iff

/-- Tables and relationships with distinct identifiers and names. -/
@[mk_iff] structure Distinct (live : List (Table κ)) (linked : List Relationship) : Prop where
  tableIds : (live.map Table.id).Nodup
  tableNames : (live.map Table.name).Nodup
  relationshipIds : (linked.map Relationship.id).Nodup
  relationshipNames : (linked.map Relationship.name).Nodup

instance (live : List (Table κ)) (linked : List Relationship) : Decidable (Distinct live linked) :=
  decidable_of_iff' _ (distinct_iff live linked)

/-- There is one table for each declared table and one relationship for each declared relationship,
and each of them is what was declared. -/
structure DeclaredSchema.RealizedBy (schema : DeclaredSchema) (live : List (Table κ))
    (linked : List Relationship) : Prop where
  tables : ∃ matched : List (Table κ), matched.Perm live ∧
    List.Forall₂ Table.Realizes matched schema.tables
  relationships : ∃ matched : List Relationship, matched.Perm linked ∧
    List.Forall₂ (Relationship.Realizes live) matched schema.relationships

/-- The tables that a plan leaves, with the created ones where they were made. -/
def Plan.tablesAfter (plan : Plan κ) (live : List (Table κ)) : List (Table κ) :=
  updateAll Table.id Table.apply
    (live.filter fun table => !plan.deletedTables.contains table.id) plan.updatedTables ++
      plan.createdTables

def Plan.relationshipsAfter (plan : Plan κ) (linked : List Relationship) : List Relationship :=
  updateAll Relationship.id Relationship.apply
    ((surviving plan.deletedTables linked).filter fun relationship =>
      !plan.deletedRelationships.contains relationship.id) plan.updatedRelationships ++
        plan.createdRelationships

/-- A plan that is empty leaves everything. -/
theorem Plan.after_of_isEmpty {plan : Plan κ} (hempty : plan.isEmpty = true)
    (tables : List (Table κ)) (relationships : List Relationship) :
    plan.tablesAfter tables = tables ∧ plan.relationshipsAfter relationships = relationships := by
  simp only [Plan.isEmpty, Plan.size, beq_iff_eq, Nat.add_eq_zero_iff, List.length_eq_zero_iff]
    at hempty
  obtain ⟨⟨⟨⟨⟨hdeleted, hupdated⟩, hcreated⟩, hunlinked⟩, hrelinked⟩, hlinked⟩ := hempty
  simp [Plan.tablesAfter, Plan.relationshipsAfter, updateAll, surviving, Relationship.touchesAny,
    hdeleted, hupdated, hcreated, hunlinked, hrelinked, hlinked]

/-! ## Declarations with entities attached -/

theorem Table.Settled.of_attached {table : Table κ} {declaration original : TableDeclaration}
    (h : table.Settled declaration) (hattached : Attached declaration original) :
    table.Settled original := by
  rcases hattached with rfl | ⟨id, rfl⟩
  · exact h
  · exact ⟨⟨h.name, h.comment, h.fields, h.indexes⟩, h.covers, h.keysFirst⟩

theorem TableDeclaration.Regular.of_attached {declaration original : TableDeclaration}
    (h : original.Regular) (hattached : Attached declaration original) : declaration.Regular := by
  rcases hattached with rfl | ⟨id, rfl⟩
  · exact h
  · exact ⟨h.fieldNames, h.keysUnique, h.indexNames⟩

theorem DeclaredSchema.AsRead.regular {schema : DeclaredSchema} (hread : schema.AsRead)
    (hschema : schema.Consistent) : ∀ declaration ∈ schema.tables, declaration.Regular :=
  fun declaration hmem => ⟨hschema.fieldNames declaration hmem, hread.keysUnique declaration hmem,
    hschema.indexNames declaration hmem⟩

theorem Relationship.Realizes.of_attached {live : List (Table κ)} {link : Relationship}
    {declaration original : RelationshipDeclaration} (h : link.Realizes live declaration)
    (hattached : Attached declaration original) : link.Realizes live original := by
  rcases hattached with rfl | ⟨id, rfl⟩
  · exact h
  · exact ⟨h.name, h.ends, h.sourceCardinality, h.targetCardinality⟩

namespace Reconciliation

theorem resolveEnds?_of_attached {live : List (Table κ)}
    {declaration original : RelationshipDeclaration} (h : Attached declaration original) :
    resolveEnds? live declaration = resolveEnds? live original := by
  rcases h with rfl | ⟨id, rfl⟩
  · rfl
  · rfl

/-! ## Tables -/

/-- The tables aimed at, one for each declared table. -/
theorem reconcileTables_outcome [Coordinate κ] {schema : DeclaredSchema} (hread : schema.AsRead)
    (hschema : schema.Consistent) {live : List (Table κ)} (hids : (live.map Table.id).Nodup)
    (hnames : (live.map Table.name).Nodup) (supply : Supply) :
    let matching := matchTables schema.tables live
    let changes := reconcileTables supply matching live
    changes.projected = updateAll Table.id Table.apply
        (live.filter fun table => !matching.gone.contains table.id) changes.updated ++
          changes.created ∧
      (∃ targets : List (Table κ), targets.Perm changes.projected ∧
        List.Forall₂ Table.Settled targets schema.tables) ∧
      ∀ update ∈ changes.updated, update.2.position = none := by
  intro matching changes
  obtain ⟨hattached, hstood, hkeptIds⟩ :
      List.Forall₂ Attached matching.declarations schema.tables ∧
        (matching.declarations.filterMap (existingTable? live)).Perm
          (live.filter fun table => !matching.gone.contains table.id) ∧
        ((live.filter fun table : Table κ =>
          !matching.gone.contains table.id).map Table.id).Nodup :=
    matchEntities_stands tableEntity hids hnames hread.newTables hschema.tableNames
  have hregular : ∀ declaration ∈ matching.declarations, declaration.Regular := by
    intro declaration hmem
    obtain ⟨original, horiginal, hsame⟩ := exists_right_of_mem hattached hmem
    exact (hread.regular hschema original horiginal).of_attached hsame
  have hstart : TableChanges.Follows live
      (live.filter fun table => !matching.gone.contains table.id) []
      { projected := live.filter fun table => !matching.gone.contains table.id } [] :=
    ⟨⟨id, .start _⟩, .nil, (List.append_nil _).symm,
      fun _ hmem => absurd hmem List.not_mem_nil⟩
  have hnodup : (([] ++ matching.declarations).filterMap (existingTable? live)).Nodup :=
    hstood.nodup_iff.mpr hkeptIds.of_map
  obtain ⟨targets, hfollows⟩ := hstart.declareAll hkeptIds hregular
    (fun table hmem => hstood.subset hmem) hnodup supply
  rw [List.nil_append] at hfollows
  obtain ⟨rebuilt, htracks⟩ := hfollows.tracks
  refine ⟨hfollows.projected, ⟨targets, ?_, ?_⟩, hfollows.unmoved⟩
  · have hfinish := htracks.finish hstood
    rwa [← hfollows.projected] at hfinish
  · refine forall₂_trans ?_ hfollows.settled hattached
    exact fun table declaration original h hsame => h.of_attached hsame

/-! ## Relationships -/

/-- Tables that are what was declared have distinct names. -/
theorem nodup_names_of_settled {schema : DeclaredSchema} (hschema : schema.Consistent)
    {live targets : List (Table κ)} (hperm : targets.Perm live)
    (h : List.Forall₂ Table.Settled targets schema.tables) : (live.map Table.name).Nodup := by
  have hnames : targets.map Table.name = schema.tables.map TableDeclaration.name :=
    map_eq_of_forall₂ (h.imp fun _ _ hsettled => hsettled.name)
  rw [← (hperm.map Table.name).nodup_iff, hnames]
  exact hschema.tableNames

/-- A declared end is found among tables that are what was declared. -/
theorem resolveEnd?_isSome {schema : DeclaredSchema} (hschema : schema.Consistent)
    {live targets : List (Table κ)} (hperm : targets.Perm live)
    (h : List.Forall₂ Table.Settled targets schema.tables) {declaration : TableDeclaration}
    (hdeclaration : declaration ∈ schema.tables) {fieldName : String}
    (hfield : fieldName ∈ declaration.fieldNames) :
    (resolveEnd? live declaration.name fieldName).isSome = true := by
  obtain ⟨table, htable, hsettled⟩ := exists_left_of_mem h hdeclaration
  have hfind := find?_key (nodup_names_of_settled hschema hperm h) (hperm.subset htable)
  rw [TableDeclaration.fieldNames, ← map_name_of_realizes hsettled.fields] at hfield
  obtain ⟨field, hmem, hname⟩ := List.mem_map.mp hfield
  have hsome : (table.fieldNamed? fieldName).isSome = true := by
    rw [Table.fieldNamed?, List.find?_isSome]
    exact ⟨field, hmem, beq_iff_eq.mpr hname⟩
  obtain ⟨found, hfound⟩ := Option.isSome_iff_exists.mp hsome
  rw [resolveEnd?, ← hsettled.name, hfind]
  simp [hfound]

theorem resolveEnds?_isSome {schema : DeclaredSchema} (hschema : schema.Consistent)
    {live targets : List (Table κ)} (hperm : targets.Perm live)
    (h : List.Forall₂ Table.Settled targets schema.tables) {declaration : RelationshipDeclaration}
    (hdeclaration : declaration ∈ schema.relationships) :
    (resolveEnds? live declaration).isSome = true := by
  obtain ⟨sourceTable, hsource, hsourceName, hsourceField⟩ := hschema.sources _ hdeclaration
  obtain ⟨targetTable, htarget, htargetName, htargetField⟩ := hschema.targets _ hdeclaration
  have hsourceEnd := resolveEnd?_isSome hschema hperm h hsource hsourceField
  have htargetEnd := resolveEnd?_isSome hschema hperm h htarget htargetField
  obtain ⟨source, hsome⟩ := Option.isSome_iff_exists.mp hsourceEnd
  obtain ⟨target, hsome'⟩ := Option.isSome_iff_exists.mp htargetEnd
  rw [resolveEnds?, ← hsourceName, ← htargetName, hsome, hsome']
  rfl

/-- The relationships aimed at, one for each declared relationship. -/
theorem reconcileRelationships_outcome {schema : DeclaredSchema} (hread : schema.AsRead)
    (hschema : schema.Consistent) {live tables targets : List (Table κ)}
    (hperm : targets.Perm tables) (htargets : List.Forall₂ Table.Settled targets schema.tables)
    {linked : List Relationship} (hids : (linked.map Relationship.id).Nodup)
    (hnames : (linked.map Relationship.name).Nodup) (supply : Supply) :
    let matching := matchRelationships schema.relationships live linked
    let changes := reconcileRelationships supply matching tables linked
    ∃ links : List Relationship,
      links.Perm (updateAll Relationship.id Relationship.apply
        (linked.filter fun link => !matching.gone.contains link.id) changes.updated ++
          changes.created) ∧
      List.Forall₂ (Relationship.Realizes tables) links schema.relationships := by
  intro matching changes
  obtain ⟨hattached, hstood, hkeptIds⟩ :
      List.Forall₂ Attached matching.declarations schema.relationships ∧
        (matching.declarations.filterMap (existingRelationship? linked)).Perm
          (linked.filter fun link => !matching.gone.contains link.id) ∧
        ((linked.filter fun link : Relationship =>
          !matching.gone.contains link.id).map Relationship.id).Nodup :=
    matchEntities_stands (relationshipEntity live) hids hnames hread.newRelationships
      hschema.relationshipNames
  have hends : ∀ declaration ∈ matching.declarations,
      (resolveEnds? tables declaration).isSome = true := by
    intro declaration hmem
    obtain ⟨original, horiginal, hsame⟩ := exists_right_of_mem hattached hmem
    rw [resolveEnds?_of_attached hsame]
    exact resolveEnds?_isSome hschema hperm htargets horiginal
  have hstart : RelationshipChanges.Follows tables linked
      (linked.filter fun link => !matching.gone.contains link.id) [] {} [] :=
    ⟨⟨id, .start _⟩, .nil⟩
  have hnodup : (([] ++ matching.declarations).filterMap (existingRelationship? linked)).Nodup :=
    hstood.nodup_iff.mpr hkeptIds.of_map
  obtain ⟨links, hfollows⟩ := hstart.declareAll hkeptIds supply hends
    (fun link hmem => hstood.subset hmem) hnodup 0
  rw [List.nil_append] at hfollows
  obtain ⟨rebuilt, htracks⟩ := hfollows.tracks
  refine ⟨links, htracks.finish hstood, ?_⟩
  refine forall₂_trans ?_ hfollows.realized hattached
  exact fun link declaration original h hsame => h.of_attached hsame

/-! ## Models that are led to -/

/-- Tables and relationships that are what was declared, one for one, are settled. -/
theorem settles_of_forall₂ {schema : DeclaredSchema} (hread : schema.AsRead)
    (hschema : schema.Consistent) {live targets : List (Table κ)} {linked links : List Relationship}
    (hperm : targets.Perm live) (htargets : List.Forall₂ Table.Settled targets schema.tables)
    (hlinksPerm : links.Perm linked)
    (hlinks : List.Forall₂ (Relationship.Realizes live) links schema.relationships) :
    schema.Settles live linked := by
  have hlinkNames : links.map Relationship.name =
      schema.relationships.map RelationshipDeclaration.name :=
    map_eq_of_forall₂ (hlinks.imp fun _ _ hrealizes => hrealizes.name)
  constructor
  · exact hread.newTables
  · exact hread.newRelationships
  · exact hread.regular hschema
  · exact nodup_names_of_settled hschema hperm htargets
  · rw [← (hlinksPerm.map Relationship.name).nodup_iff, hlinkNames]
    exact hschema.relationshipNames
  · intro declaration hmem
    obtain ⟨table, htable, hsettled⟩ := exists_left_of_mem htargets hmem
    exact ⟨table, hperm.subset htable, hsettled⟩
  · intro declaration hmem
    obtain ⟨link, hlink, hrealizes⟩ := exists_left_of_mem hlinks hmem
    exact ⟨link, hlinksPerm.subset hlink, hrealizes⟩
  · intro table hmem
    obtain ⟨declaration, hdeclaration, hsettled⟩ :=
      exists_right_of_mem htargets (hperm.symm.subset hmem)
    exact ⟨declaration, hdeclaration, hsettled.name.symm⟩
  · intro link hmem
    obtain ⟨declaration, hdeclaration, hrealizes⟩ :=
      exists_right_of_mem hlinks (hlinksPerm.symm.subset hmem)
    exact ⟨declaration, hdeclaration, hrealizes.name.symm⟩

/-! ## The whole plan -/

/-- The plan for a schema leads to the tables and relationships aimed at. -/
theorem reconcile_outcome [Coordinate κ] {schema : DeclaredSchema} (hread : schema.AsRead)
    (hschema : schema.Consistent) {live : List (Table κ)} {linked : List Relationship}
    (hmodel : Distinct live linked) (supply : Supply) :
    let plan := reconcile supply schema live linked
    (∃ targets : List (Table κ), targets.Perm (plan.tablesAfter live) ∧
      List.Forall₂ Table.Settled targets schema.tables) ∧
    (∃ links : List Relationship, links.Perm (plan.relationshipsAfter linked) ∧
      List.Forall₂ (Relationship.Realizes (plan.tablesAfter live)) links schema.relationships) ∧
    ∀ update ∈ plan.updatedTables, update.2.position = none := by
  intro plan
  obtain ⟨hprojected, ⟨targets, hperm, hsettled⟩, hunmoved⟩ :=
    reconcileTables_outcome hread hschema hmodel.tableIds hmodel.tableNames supply
  have htables : plan.tablesAfter live =
      (reconcileTables supply (matchTables schema.tables live) live).projected := hprojected.symm
  refine ⟨⟨targets, ?_, hsettled⟩, ?_, hunmoved⟩
  · rwa [htables]
  · rw [htables]
    have hsub : (surviving plan.deletedTables linked).Sublist linked := List.filter_sublist
    exact reconcileRelationships_outcome hread hschema hperm hsettled
      (hmodel.relationshipIds.sublist (hsub.map _))
      (hmodel.relationshipNames.sublist (hsub.map _)) _

end Reconciliation

end SchemaDiagram
