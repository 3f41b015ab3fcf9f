import SchemaDiagram.Proofs.Reconciliation.Kept
import SchemaDiagram.Proofs.Session.Converged

/-!
# Edits of a text keep identities

Carrying out the plan for a schema text deletes a table only if the text has no place for it, and
rebuilds every other one in place, whatever the writes do.  Only created tables are moved, so that
tables that were there stay where they are as long as created ones carry new identifiers.
-/

namespace SchemaDiagram

open Reconciliation

variable {σ κ : Type}

/-- What becomes of the live tables when a plan for a schema is carried out.  A table that a
declared one stands for is rebuilt for it, and any other one is deleted; different tables are
rebuilt under different names, and a renamed one never under a name that was in use.  Where the
numbers of declared and live tables differ, only names decide what is deleted and created. -/
structure DeclaredSchema.KeepsIdentities [Coordinate κ] (schema : DeclaredSchema)
    (before : List (Table κ)) (plan : Plan κ) (after : Diagram κ) : Prop where
  rebuilt : ∀ table ∈ before, ∀ declaration, schema.StandsFor before declaration table →
    table.id ∉ plan.deletedTables ∧
      ∃ rebuilt, after.table? table.id = some rebuilt ∧ table.RebuiltAs declaration rebuilt
  deleted : ∀ table ∈ before, (∀ declaration, ¬schema.StandsFor before declaration table) →
    table.id ∈ plan.deletedTables
  apart : ∀ first ∈ before, ∀ second ∈ before, ∀ declaration other,
    schema.StandsFor before declaration first → schema.StandsFor before other second →
      declaration.name = other.name → first = second
  renamed : ∀ table ∈ before, ∀ declaration, schema.Renames before table declaration →
    ∀ other ∈ before, other.name ≠ declaration.name
  counted : schema.tables.length ≠ before.length →
    plan.deletedTables = (before.filter fun table =>
        table.name ∉ schema.tables.map TableDeclaration.name).map Table.id ∧
      List.Forall₂ (fun table declaration => ∃ drawn, table = newTable drawn declaration)
        plan.createdTables
        (schema.tables.filter fun declaration => declaration.name ∉ before.map Table.name)

/-- A table that may not be moved is found where it was. -/
theorem find?_of_moved_still {ids : List Identifier} {before after : List (Table κ)}
    (h : List.Forall₂ (Table.Moved ids) before after) {table : Table κ}
    (hfind : before.find? (fun other => other.id == table.id) = some table)
    (hstill : table.id ∉ ids) :
    after.find? (fun other => other.id == table.id) = some table := by
  induction h with
  | nil => cases hfind
  | @cons first second _ _ hmoved _ ih =>
      by_cases hid : first.id = table.id
      · rw [List.find?_cons_of_pos (by simpa using hid)] at hfind
        obtain rfl := Option.some.inj hfind
        rw [hmoved.still hstill, List.find?_cons_of_pos (by simp)]
      · rw [List.find?_cons_of_neg (by simpa using hid)] at hfind
        rw [List.find?_cons_of_neg (by simpa [hmoved.id_eq] using hid)]
        exact ih hfind

namespace Workspace

/-- Carrying out the plan for a text whose tables have distinct names keeps the identities of a
model whose tables have distinct identifiers and names. -/
theorem applyPlan_keepsIdentities [Coordinate κ] [Storage σ κ] (workspace : Workspace σ κ)
    {diagram : Diagram κ} (hloaded : workspace.session.diagram? = some diagram)
    (dialect : Dialect) (text : String)
    (hdeclared : ((SchemaText.parse dialect text).tables.map TableDeclaration.name).Nodup)
    (hids : (diagram.tables.map Table.id).Nodup) (hnames : (diagram.tables.map Table.name).Nodup)
    (supply : Supply)
    (hnew : (diagram.tables.map Table.id).Disjoint
      (supply.next (stamps (SchemaText.parse dialect text)))) (record : Bool) :
    let schema := SchemaText.parse dialect text
    let plan := reconcile supply schema diagram.tables diagram.relationships
    ∃ after, (workspace.applyPlan plan record).2.session.diagram? = some after ∧
      schema.KeepsIdentities diagram.tables plan after := by
  intro schema plan
  have hread : schema.AsRead := SchemaText.asRead_parse dialect text
  have hlive : ∀ id ∈ plan.deletedTables, id ∈ diagram.tables.map Table.id :=
    (reconcile_grounded supply schema diagram.tables diagram.relationships).deletedTables
  have hshows : workspace.Shows diagram.tables diagram.relationships :=
    ⟨diagram, hloaded, rfl, rfl⟩
  obtain ⟨moved, ⟨after, hafter, rfl, -⟩, hmoved⟩ := hshows.applyPlan hlive record
  have hcreated : (plan.createdTables.map Table.id).Sublist (supply.next (stamps schema)) := by
    rw [stamps, Supply.next_add]
    exact (createdTables_sublist_next hread hids supply).trans (List.sublist_append_left _ _)
  refine ⟨after, hafter, ?_, ?_, ?_, ?_, ?_⟩
  · intro table htable declaration hstands
    obtain ⟨hkept, rebuilt, hrebuilt, hparts⟩ :=
      hstands.rebuilt hread hids hnames hdeclared htable supply
    refine ⟨hkept, rebuilt, ?_, hparts⟩
    have hid := hparts.id_eq
    have hleft : ((updateAll Table.id Table.apply (diagram.tables.filter fun table =>
        !plan.deletedTables.contains table.id) plan.updatedTables).map Table.id).Nodup := by
      rw [map_updateAll fun _ _ _ => rfl]
      exact hids.sublist (List.filter_sublist.map Table.id)
    have hstill : rebuilt.id ∉ plan.createdTables.map Table.id := by
      rw [hid]
      exact fun hmem => hnew (List.mem_map_of_mem htable) (hcreated.subset hmem)
    rw [Diagram.table?, ← hid]
    refine find?_of_moved_still hmoved ?_ hstill
    rw [Plan.tablesAfter, List.find?_append, find?_key hleft hrebuilt, Option.some_or]
  · exact fun table htable hnone => mem_gone_of_not_standsFor hread hids htable hnone
  · intro first hfirst second hsecond declaration other hstands hstands' hname
    exact hstands.table_unique hread hids hnames hdeclared hfirst hsecond hstands' hname
  · exact fun table _ declaration hrenames => hrenames.name_ne hread hids
  · exact fun hlength => reconcile_of_length_ne hread hlength diagram.relationships supply

theorem applyPlan_keepsIdentities_ledger :
    let schema := SchemaText.parse .generic ledgerText
    let plan := reconcile ledgerSupply schema ledger.tables ledger.relationships
    ∃ after, (ledgerWorkspace.applyPlan plan true).2.session.diagram? = some after ∧
      schema.KeepsIdentities ledger.tables plan after := by
  have hdeclared : ((SchemaText.parse .generic ledgerText).tables.map
      TableDeclaration.name).Nodup := by decide +kernel
  have hids : (ledger.tables.map Table.id).Nodup := by decide +kernel
  have hnames : (ledger.tables.map Table.name).Nodup := by decide +kernel
  have hnew : (ledger.tables.map Table.id ++
      ledgerSupply.next (stamps (SchemaText.parse .generic ledgerText))).Nodup := by
    decide +kernel
  exact applyPlan_keepsIdentities ledgerWorkspace rfl .generic ledgerText hdeclared hids hnames
    ledgerSupply (List.disjoint_of_nodup_append hnew) true

end Workspace

end SchemaDiagram
