import SchemaDiagram.Proofs.Session.PlanInStep

/-!
# Plans for texts

The plan for a schema text fits the model that it was made for.  Carried out over a storage in step
with that model it does not fail, and what it leaves is what was predicted: the reconciler looks the
ends of relationships up among the tables that it expects, and these are the tables that the session
arrives at.
-/

namespace SchemaDiagram

open Reconciliation

variable {κ : Type}

/-! ## Indexes that are read -/

/-- Every index that a text declares is over some field. -/
theorem SchemaText.index_fields_ne_nil (dialect : Dialect) (text : String) :
    ∀ table ∈ (parse dialect text).tables, ∀ index ∈ table.indexes, index.fields ≠ [] := by
  intro table htable index hindex
  rw [parse, parsePlain] at htable
  obtain ⟨block, -, rfl⟩ := List.mem_map.mp htable
  obtain ⟨body, hbody⟩ : ∃ body, index ∈ indexesOfBody body := by
    change index ∈ ((splitBody block.body).2.map indexesOfBody).getD [] at hindex
    cases hsplit : (splitBody block.body).2 with
    | none =>
        rw [hsplit] at hindex
        exact absurd hindex List.not_mem_nil
    | some body =>
        rw [hsplit] at hindex
        exact ⟨body, hindex⟩
  obtain ⟨statement, -, hdeclare⟩ := List.mem_filterMap.mp hbody
  rw [IndexStatement.declare?] at hdeclare
  dsimp only at hdeclare
  by_cases hempty : (indexFieldNames statement.fields).isEmpty = true
  · rw [if_pos hempty] at hdeclare
    cases hdeclare
  · rw [if_neg hempty] at hdeclare
    obtain rfl := Option.some.inj hdeclare
    simpa using hempty

/-! ## New identifiers -/

/-- The identifiers of the next stamps differ from each other, and neither a table nor a
relationship carries one of them. -/
structure Supply.NewTo (supply : Supply) (count : Nat) (live : List (Table κ))
    (linked : List Relationship) : Prop where
  tables : (live.map Table.id ++ supply.next count).Nodup
  relationships : (linked.map Relationship.id ++ supply.next count).Nodup

theorem Supply.NewTo.plan [Coordinate κ] {schema : DeclaredSchema} (hread : schema.AsRead)
    {live : List (Table κ)} {linked : List Relationship} {supply : Supply}
    (h : supply.NewTo (stamps schema) live linked) :
    (reconcile supply schema live linked).New live linked := by
  have hids : (live.map Table.id).Nodup := h.tables.sublist (List.sublist_append_left _ _)
  have hlinks : (linked.map Relationship.id).Nodup :=
    h.relationships.sublist (List.sublist_append_left _ _)
  have hdrawn := created_sublist_next hread hids hlinks supply
  exact ⟨h.tables.sublist (((List.sublist_append_left _ _).trans hdrawn).append_left _),
    h.relationships.sublist (((List.sublist_append_right _ _).trans hdrawn).append_left _)⟩

/-! ## Moved tables -/

theorem Table.Moved.covered {ids : List Identifier} {before after : Table κ}
    (h : before.Moved ids after) (hcovered : before.Covered) : after.Covered := by
  obtain ⟨x, y, rfl⟩ := h.same
  exact hcovered

/-- A relationship stands at tables wherever they are moved. -/
theorem Relationship.Stands.of_moved {ids : List Identifier} {before after : List (Table κ)}
    {link : Relationship} (h : link.Stands before)
    (hmoved : List.Forall₂ (Table.Moved ids) before after) : link.Stands after := by
  have hend : ∀ endpoint : Endpoint, endpoint.StandsAt before → endpoint.StandsAt after := by
    rintro endpoint ⟨table, hmem, hid, hschema, hfield⟩
    obtain ⟨moved, hafter, hmove⟩ := exists_right_of_mem hmoved hmem
    obtain ⟨x, y, rfl⟩ := hmove.same
    exact ⟨_, hafter, hid, hschema, hfield⟩
  exact ⟨hend _ h.1, hend _ h.2⟩

/-! ## Carried out as predicted -/

/-- What a plan leaves is what was predicted.  The tables are the predicted ones, of which created
ones are moved.  Whatever is updated or created is there; both ends of a relationship stand at a
table and a field, and every index of a table covers some field, and fields of the table only. -/
structure Plan.CarriedOut (plan : Plan κ) (predicted : List (Table κ)) (after : Diagram κ) :
    Prop where
  tables :
    List.Forall₂ (Table.Moved (plan.createdTables.map Table.id)) predicted after.tables
  covered : ∀ id ∈ plan.updatedTables.map Prod.fst ++ plan.createdTables.map Table.id,
    ∃ table, after.table? id = some table ∧ table.Covered
  stands : ∀ id ∈ plan.updatedRelationships.map Prod.fst ++
      plan.createdRelationships.map Relationship.id,
    ∃ link, after.relationship? id = some link ∧ link.Stands after.tables

section Reconcile

variable [Coordinate κ] {schema : DeclaredSchema} (hread : schema.AsRead)
  (hindexes : ∀ table ∈ schema.tables, ∀ index ∈ table.indexes, index.fields ≠ [])
  {live : List (Table κ)} {linked : List Relationship} {supply : Supply}

include hread hindexes

/-- Every table that is updated or created is left, covered by its indexes. -/
theorem exists_covered_tablesAfter (hids : (live.map Table.id).Nodup)
    (hlinks : (linked.map Relationship.id).Nodup) {id : Identifier}
    (hid : id ∈ (reconcile supply schema live linked).updatedTables.map Prod.fst ++
      (reconcile supply schema live linked).createdTables.map Table.id) :
    ∃ table ∈ (reconcile supply schema live linked).tablesAfter live,
      table.id = id ∧ table.Covered := by
  have hfits := reconcile_fits hread hids hlinks supply
  rcases List.mem_append.mp hid with hupdated | hcreated
  · obtain ⟨update, hupdate, rfl⟩ := List.mem_map.mp hupdated
    have hkept : update.1 ∈ (updateAll Table.id Table.apply (live.filter fun table =>
        !(reconcile supply schema live linked).deletedTables.contains table.id)
          (reconcile supply schema live linked).updatedTables).map Table.id := by
      rw [map_updateAll fun _ _ _ => rfl]
      obtain ⟨table, htable, hsame⟩ :=
        List.mem_map.mp (hfits.updatedTables_live update hupdate)
      rw [← hsame]
      refine List.mem_map_of_mem (List.mem_filter.mpr ⟨htable, ?_⟩)
      simpa [hsame] using hfits.tables_apart update hupdate
    obtain ⟨table, htable, hsame⟩ := List.mem_map.mp hkept
    refine ⟨table, List.mem_append_left _ htable, hsame, ?_⟩
    apply covered_of_updated hread hids supply hindexes htable
    rwa [hsame]
  · obtain ⟨table, htable, rfl⟩ := List.mem_map.mp hcreated
    exact ⟨table, List.mem_append_right _ htable, rfl,
      covered_of_created hread hids supply hindexes htable⟩

omit hindexes in
/-- Every relationship that is updated or created is left, and stands at the predicted tables. -/
theorem exists_standing_relationshipsAfter
    (hnew : supply.NewTo (stamps schema) live linked) {id : Identifier}
    (hid : id ∈ (reconcile supply schema live linked).updatedRelationships.map Prod.fst ++
      (reconcile supply schema live linked).createdRelationships.map Relationship.id) :
    ∃ link ∈ (reconcile supply schema live linked).relationshipsAfter linked, link.id = id ∧
      link.Stands (reconcileTables supply (matchTables schema.tables live) live).projected := by
  have hlinks : (linked.map Relationship.id).Nodup :=
    hnew.relationships.sublist (List.sublist_append_left _ _)
  have hapart : ∀ other ∈ (reconcile supply schema live linked).createdRelationships,
      other.id ∉ linked.map Relationship.id := by
    intro other hother hlive
    have hcreated := (hnew.plan hread).relationships
    rw [List.nodup_append] at hcreated
    exact hcreated.2.2 _ hlive _ (List.mem_map_of_mem hother) rfl
  have hstands : ∀ link ∈ (reconcile supply schema live linked).relationshipsAfter linked,
      link.id = id → link.Stands
        (reconcileTables supply (matchTables schema.tables live) live).projected := by
    intro link hlink hsame
    apply stands_of_touched hread hlinks supply hlink hapart
    rw [hsame]
    exact List.mem_append.mp hid
  have hlinked := reconcile_linked hread live hlinks supply
  obtain ⟨link, hlink, hsame⟩ : ∃ link ∈
      (reconcile supply schema live linked).relationshipsAfter linked, link.id = id := by
    rcases List.mem_append.mp hid with hupdated | hcreated
    · obtain ⟨update, hupdate, rfl⟩ := List.mem_map.mp hupdated
      have hkeeps : ∀ update ∈ (reconcile supply schema live linked).updatedRelationships,
          ∀ link : Relationship, (link.apply update.2).id = link.id := fun _ _ _ => rfl
      have hkept := (hlinked.updated update hupdate).1
      rw [← map_updateAll hkeeps] at hkept
      obtain ⟨link, hlink, hsame⟩ := List.mem_map.mp hkept
      exact ⟨link, List.mem_append_left _ hlink, hsame⟩
    · obtain ⟨link, hlink, rfl⟩ := List.mem_map.mp hcreated
      exact ⟨link, List.mem_append_right _ hlink, rfl⟩
  exact ⟨link, hlink, hsame, hstands link hlink hsame⟩

end Reconcile

namespace Workspace

/-- The plan for a text, carried out over a storage in step with the model, does not fail, and it
leaves the tables that were predicted, the coordinates of created ones apart. -/
theorem applyPlan_carriedOut [Coordinate κ] {workspace : Workspace (MemoryStorage κ) κ}
    {diagram : Diagram κ} (hstep : workspace.InStep diagram) (hdistinct : diagram.Distinct)
    (dialect : Dialect) (text : String) (supply : Supply)
    (hnew : supply.NewTo (stamps (SchemaText.parse dialect text)) diagram.tables
      diagram.relationships) (record : Bool) :
    let schema := SchemaText.parse dialect text
    let plan := reconcile supply schema diagram.tables diagram.relationships
    let matching := matchTables schema.tables diagram.tables
    plan.Fits diagram.tables diagram.relationships ∧
      (workspace.applyPlan plan record).1 = .ok () ∧
      ∃ after, (workspace.applyPlan plan record).2.InStep after ∧
        plan.CarriedOut (reconcileTables supply matching diagram.tables).projected after := by
  intro schema plan matching
  have hread : schema.AsRead := SchemaText.asRead_parse dialect text
  have hindexes := SchemaText.index_fields_ne_nil dialect text
  have hfits := reconcile_fits hread hdistinct.tables hdistinct.relationships supply
  obtain ⟨hok, -, after, hafter, hafterDistinct⟩ :=
    hstep.applyPlan hdistinct hfits (hnew.plan hread) record
  refine ⟨hfits, hok, after, hafter, ?_⟩
  have hshows : workspace.Shows diagram.tables diagram.relationships :=
    ⟨diagram, hstep.loaded, rfl, rfl⟩
  obtain ⟨moved, ⟨shown, hshown, rfl, hrelationships⟩, hmoved⟩ :=
    hshows.applyPlan hfits.deletedTables_live record
  obtain rfl : shown = after := Option.some.inj (hshown.symm.trans hafter.loaded)
  have hpredicted : plan.tablesAfter diagram.tables =
      (reconcileTables supply matching diagram.tables).projected :=
    tablesAfter_reconcile hread hdistinct.tables supply
  constructor
  · rwa [← hpredicted]
  · intro id hid
    obtain ⟨before, hbefore, rfl, hcovered⟩ := exists_covered_tablesAfter hread hindexes
      hdistinct.tables hdistinct.relationships hid
    obtain ⟨table, htable, hmove⟩ := exists_right_of_mem hmoved hbefore
    refine ⟨table, ?_, hmove.covered hcovered⟩
    rw [← hmove.id_eq]
    exact find?_key hafterDistinct.tables htable
  · intro id hid
    obtain ⟨link, hlink, rfl, hstands⟩ := exists_standing_relationshipsAfter hread hnew hid
    rw [← hpredicted] at hstands
    rw [← hrelationships] at hlink
    exact ⟨link, find?_key hafterDistinct.relationships hlink, hstands.of_moved hmoved⟩

/-! ## A ledger that is stored -/

/-- The ledger, loaded and stored. -/
def storedLedger : Workspace (MemoryStorage Float) Float :=
  ⟨ledgerWorkspace.session, ⟨[ledger], false⟩⟩

theorem storedLedger_inStep : storedLedger.InStep ledger :=
  ⟨rfl, ledger, ⟨rfl, rfl⟩, .refl ledger⟩

theorem ledger_distinct : ledger.Distinct :=
  ⟨by decide +kernel, by decide +kernel, by decide +kernel⟩

theorem applyPlan_carriedOut_ledger :
    let schema := SchemaText.parse .generic ledgerText
    let plan := reconcile ledgerSupply schema ledger.tables ledger.relationships
    let matching := matchTables schema.tables ledger.tables
    plan.Fits ledger.tables ledger.relationships ∧
      (storedLedger.applyPlan plan true).1 = .ok () ∧
      ∃ after, (storedLedger.applyPlan plan true).2.InStep after ∧
        plan.CarriedOut (reconcileTables ledgerSupply matching ledger.tables).projected after :=
  applyPlan_carriedOut storedLedger_inStep ledger_distinct .generic ledgerText ledgerSupply
    ⟨by decide +kernel, by decide +kernel⟩ true

end Workspace

end SchemaDiagram
