import Mathlib.Algebra.Group.Int.Defs
import Mathlib.Data.List.Perm.Basic
import SchemaDiagram.Proofs.Session.PlanEffect
import SchemaDiagram.Storage.Memory

/-!
# Texts that a model converges on

Carrying out the plan for a schema text leaves a model that is what the text declares, whatever was
there before and wherever the created tables are put.  The plan for the same text is then empty,
unless a created table was put where a coordinate is no number: the layout adds and multiplies the
measures it is given, and measures that are too large lead to such places.
-/

namespace SchemaDiagram

open Reconciliation

variable {σ κ : Type}

/-! ## Schemas that are read -/

theorem SchemaText.unique_of_primaryKey {dialect : Dialect} {statement : FieldStatement}
    (h : (statement.declare dialect).primaryKey = true) :
    (statement.declare dialect).unique = true := by
  change (fieldFlags (extractTag noteKeyword statement.tags).2).primaryKey = true at h
  change (_ || (fieldFlags (extractTag noteKeyword statement.tags).2).primaryKey) = true
  rw [h, Bool.or_true]

/-- What a text declares is new, and its keys are unique. -/
theorem SchemaText.asRead_parse (dialect : Dialect) (text : String) :
    (parse dialect text).AsRead := by
  rw [parse, parsePlain]
  refine ⟨?_, ?_, ?_⟩
  · intro declaration hmem
    obtain ⟨block, -, rfl⟩ := List.mem_map.mp hmem
    rfl
  · intro declaration hmem
    obtain ⟨piece, -, hpiece⟩ := List.mem_flatMap.mp hmem
    obtain ⟨statement, -, rfl⟩ := List.mem_map.mp hpiece
    rfl
  · intro declaration hmem field hfield hkey
    obtain ⟨block, -, rfl⟩ := List.mem_map.mp hmem
    obtain ⟨statement, -, rfl⟩ := List.mem_map.mp hfield
    exact SchemaText.unique_of_primaryKey hkey

/-! ## Moving tables -/

theorem Table.Moved.id_eq {ids : List Identifier} {before after : Table κ}
    (h : before.Moved ids after) : after.id = before.id := by
  obtain ⟨x, y, rfl⟩ := h.same
  rfl

/-- Moving a table does not change what it is. -/
theorem Table.Moved.settled {ids : List Identifier} {before after : Table κ}
    {declaration : TableDeclaration} (h : before.Moved ids after)
    (hsettled : before.Settled declaration) : after.Settled declaration := by
  obtain ⟨x, y, rfl⟩ := h.same
  exact ⟨⟨hsettled.name, hsettled.comment, hsettled.fields, hsettled.indexes⟩, hsettled.covers,
    hsettled.keysFirst⟩

/-- Looking for something that does not depend on places finds the same table after tables were
moved. -/
theorem find?_of_moved {p : Table κ → Bool}
    (hp : ∀ (table : Table κ) x y, p (table.withPosition x y) = p table) {ids : List Identifier}
    {before after : List (Table κ)} (h : List.Forall₂ (Table.Moved ids) before after) :
    (before.find? p = none ∧ after.find? p = none) ∨
      ∃ table x y, before.find? p = some table ∧ after.find? p = some (table.withPosition x y) := by
  induction h with
  | nil => exact .inl ⟨rfl, rfl⟩
  | @cons first second _ _ hmoved _ ih =>
      obtain ⟨x, y, rfl⟩ := hmoved.same
      by_cases hfirst : p first = true
      · refine .inr ⟨first, x, y, List.find?_cons_of_pos hfirst, List.find?_cons_of_pos ?_⟩
        rwa [hp]
      · rwa [List.find?_cons_of_neg hfirst, List.find?_cons_of_neg (by rwa [hp])]

/-- Names refer to the same ends after tables were moved. -/
theorem resolveEnd?_of_moved {ids : List Identifier} {before after : List (Table κ)}
    (h : List.Forall₂ (Table.Moved ids) before after) (tableName fieldName : String) :
    resolveEnd? after tableName fieldName = resolveEnd? before tableName fieldName := by
  obtain ⟨hbefore, hafter⟩ | ⟨table, x, y, hbefore, hafter⟩ :=
    find?_of_moved (p := fun table => table.name == tableName) (fun _ _ _ => rfl) h
  · simp only [resolveEnd?, hbefore, hafter]
  · simp only [resolveEnd?, hbefore, hafter]
    rfl

theorem Relationship.Realizes.of_moved {ids : List Identifier} {before after : List (Table κ)}
    {link : Relationship} {declaration : RelationshipDeclaration}
    (h : link.Realizes before declaration)
    (hmoved : List.Forall₂ (Table.Moved ids) before after) :
    link.Realizes after declaration := by
  refine ⟨h.name, ?_, h.sourceCardinality, h.targetCardinality⟩
  rw [← h.ends, resolveEnds?, resolveEnds?, resolveEnd?_of_moved hmoved,
    resolveEnd?_of_moved hmoved]

/-- What a plan leaves stays where it is, if the plan does not move it and did not create it. -/
theorem placed_of_not_created [BEq κ] {plan : Plan κ} {live : List (Table κ)}
    (hplaced : ∀ table ∈ live, table.Placed)
    (hunmoved : ∀ update ∈ plan.updatedTables, update.2.position = none) {table : Table κ}
    (hmem : table ∈ plan.tablesAfter live) (hold : table.id ∉ plan.createdTables.map Table.id) :
    table.Placed := by
  rcases List.mem_append.mp hmem with hkept | hcreated
  · have hkeeps : ∀ update ∈ plan.updatedTables, ∀ table : Table κ,
        ((table.apply update.2).x, (table.apply update.2).y) = (table.x, table.y) := by
      intro update hupdate table
      rw [Table.apply, hunmoved update hupdate]
      rfl
    have hplace : (table.x, table.y) ∈ (updateAll Table.id Table.apply
        (live.filter fun table => !plan.deletedTables.contains table.id)
        plan.updatedTables).map fun table => (table.x, table.y) := List.mem_map_of_mem hkept
    rw [map_updateAll hkeeps] at hplace
    obtain ⟨old, hfilter, hsame⟩ := List.mem_map.mp hplace
    obtain ⟨hx, hy⟩ := Prod.mk.inj hsame
    have hold := hplaced old (List.mem_filter.mp hfilter).1
    rwa [Table.Placed, ← hx, ← hy]
  · exact absurd (List.mem_map_of_mem hcreated) hold

/-! ## Carrying out the plan for a text -/

namespace Workspace

variable [Storage σ κ]

/-- Carrying out the plan for a text makes the model what the text declares.  The plan for the same
text is empty afterwards exactly if the coordinates of the created tables are numbers. -/
theorem applyPlan_converges [Coordinate κ] (workspace : Workspace σ κ) {diagram : Diagram κ}
    (hloaded : workspace.session.diagram? = some diagram) (dialect : Dialect) (text : String)
    (hschema : (SchemaText.parse dialect text).Consistent)
    (hdistinct : Distinct diagram.tables diagram.relationships)
    (hplaced : ∀ table ∈ diagram.tables, table.Placed) (supply : Supply) (record : Bool) :
    let schema := SchemaText.parse dialect text
    let plan := reconcile supply schema diagram.tables diagram.relationships
    ∃ after, (workspace.applyPlan plan record).2.session.diagram? = some after ∧
      schema.RealizedBy after.tables after.relationships ∧
      ∀ again, reconcile again schema after.tables after.relationships = {} ↔
        ∀ table ∈ after.tables, table.id ∈ plan.createdTables.map Table.id → table.Placed := by
  intro schema plan
  have hread : schema.AsRead := SchemaText.asRead_parse dialect text
  obtain ⟨⟨targets, htargets, hsettled⟩, ⟨links, hlinks, hrealized⟩, hunmoved⟩ :=
    reconcile_outcome hread hschema hdistinct supply
  have hlive : ∀ id ∈ plan.deletedTables, id ∈ diagram.tables.map Table.id :=
    (reconcile_grounded supply schema diagram.tables diagram.relationships).deletedTables
  have hshows : workspace.Shows diagram.tables diagram.relationships :=
    ⟨diagram, hloaded, rfl, rfl⟩
  obtain ⟨moved, ⟨after, hafter, rfl, hrelationships⟩, hmoved⟩ := hshows.applyPlan hlive record
  -- The tables aimed at are moved along, so that they still go with the declared ones.
  obtain ⟨matched, hmatched, hperm⟩ := List.perm_comp_forall₂ htargets hmoved
  have hback : List.Forall₂ (fun after before => Table.Moved _ before after) matched targets :=
    hmatched.flip
  have htables : List.Forall₂ Table.Settled matched schema.tables := by
    refine forall₂_trans ?_ hback hsettled
    exact fun after before declaration hmove hsettled => hmove.settled hsettled
  have hends : List.Forall₂ (Relationship.Realizes after.tables) links schema.relationships :=
    hrealized.imp fun _ _ hlink => hlink.of_moved hmoved
  rw [← hrelationships] at hlinks
  refine ⟨after, hafter, ⟨⟨matched, hperm, htables.imp fun _ _ h => h.toRealizes⟩,
    ⟨links, hlinks, hends⟩⟩, fun again => ?_⟩
  rw [reconcile_eq_empty_iff (settles_of_forall₂ hread hschema hperm htables hlinks hends)]
  constructor
  · exact fun hall table hmem _ => hall table hmem
  · intro hcreated table hmem
    by_cases hnew : table.id ∈ plan.createdTables.map Table.id
    · exact hcreated table hmem hnew
    · obtain ⟨before, hbefore, hmove⟩ := exists_left_of_mem hmoved hmem
      have hold : before.id ∉ plan.createdTables.map Table.id := by
        rwa [← hmove.id_eq]
      rw [hmove.still hold]
      exact placed_of_not_created hplaced hunmoved hbefore hold

/-! ## A text that renames, deletes and creates -/

/-- Stamps that count upwards from 100. -/
def ledgerSupply : Supply :=
  ⟨fun n => ⟨Identifier.ofNat (n + 100), ⟨n, 0⟩, ""⟩, 0⟩

/-- Customers, their orders, and drafts that no one needs. -/
def ledger : Diagram Float :=
  { (Diagram.new ⟨⟨1⟩, ⟨0, 0⟩, ""⟩ "ledger" .generic : Diagram Float) with
    tables := [
      { Table.new ⟨⟨2⟩, ⟨0, 0⟩, ""⟩ "customers" 0 0 with
        fields := [Field.new ⟨⟨3⟩, ⟨0, 0⟩, ""⟩ "key" ⟨"int", "int"⟩] },
      { Table.new ⟨⟨4⟩, ⟨0, 0⟩, ""⟩ "orders" 400 (-2.5) with
        fields := [Field.new ⟨⟨5⟩, ⟨0, 0⟩, ""⟩ "customer" ⟨"int", "int"⟩] },
      Table.new ⟨⟨6⟩, ⟨0, 0⟩, ""⟩ "drafts" 800 0]
    relationships := [
      Relationship.new ⟨⟨7⟩, ⟨0, 0⟩, ""⟩ "placed" (Endpoint.new ⟨4⟩ ⟨5⟩) (Endpoint.new ⟨2⟩ ⟨3⟩)] }

/-- Customers become clients, and invoices take the place of the drafts. -/
def ledgerText : String :=
  "Table clients \x7b\n  key int\n\x7d\n\n" ++
  "Table orders \x7b\n  client int\n  total int\n\x7d\n\n" ++
  "Table invoices \x7b\n  number int [pk]\n  order int\n\x7d\n\n" ++
  "Rel placed: N orders.client, 1 clients.key\n"

/-- A session in which the ledger is loaded. -/
def ledgerWorkspace : Workspace (MemoryStorage Float) Float :=
  ⟨{ Session.new Config.standard LayoutConfig.standard ledgerSupply with diagram? := some ledger },
    MemoryStorage.empty⟩

theorem applyPlan_converges_ledger :
    let schema := SchemaText.parse .generic ledgerText
    let plan := reconcile ledgerSupply schema ledger.tables ledger.relationships
    ∃ after, (ledgerWorkspace.applyPlan plan true).2.session.diagram? = some after ∧
      schema.RealizedBy after.tables after.relationships ∧
      ∀ again, reconcile again schema after.tables after.relationships = {} ↔
        ∀ table ∈ after.tables, table.id ∈ plan.createdTables.map Table.id → table.Placed := by
  have hschema : (SchemaText.parse .generic ledgerText).Consistent := by decide +kernel
  have hdistinct : Distinct ledger.tables ledger.relationships := by decide +kernel
  have hplaced : ∀ table ∈ ledger.tables, table.Placed := by decide +kernel
  exact applyPlan_converges ledgerWorkspace rfl .generic ledgerText hschema hdistinct hplaced
    ledgerSupply true

/-! ## Measures that are too large -/

/-- Measures whose sum is beyond all numbers. -/
def wideLayout : LayoutConfig Float :=
  { LayoutConfig.standard with
    tableWidth := Float.ofInt (10 ^ 308)
    horizontalSpacing := Float.ofInt (10 ^ 308) }

/-- A session with these measures, in which an empty diagram is loaded. -/
def wideWorkspace : Workspace (MemoryStorage Float) Float :=
  ⟨{ Session.new Config.standard wideLayout ledgerSupply with
      diagram? := some (Diagram.new ⟨⟨1⟩, ⟨0, 0⟩, ""⟩ "wide" .generic) },
    MemoryStorage.empty⟩

/-- A created table is put where a coordinate is no number, so that the next plan updates it. -/
theorem applyPlan_wide :
    let schema := SchemaText.parse .generic "Table a \x7b\n\tid int\n\x7d"
    let before := wideWorkspace.session
    let plan := reconcile ledgerSupply schema before.tables before.relationships
    let after := (wideWorkspace.applyPlan plan true).2.session
    schema.Consistent ∧ Distinct before.tables before.relationships ∧
      (∀ table ∈ before.tables, table.Placed) ∧
      reconcile after.supply schema after.tables after.relationships ≠ {} := by
  refine ⟨by decide +kernel, by decide +kernel, fun _ hmem => absurd hmem List.not_mem_nil, ?_⟩
  intro hempty
  have hlength := congrArg (fun plan => plan.updatedTables.length) hempty
  exact absurd hlength (by decide +kernel)

end Workspace

end SchemaDiagram
