import SchemaDiagram.Proofs.Session.RecordedParts

/-!
# Recorded changes of tables

Mutations of whole tables record steps that connect the diagram before them with the diagram after
them.  The links at tables that disappear go with them, so that no link may stand at a table that is
new: undoing would take it away.
-/

namespace SchemaDiagram

variable {κ : Type}

namespace Mutation

/-! ## Updating a table -/

/-- A diagram with other tables, whatever the links stand at. -/
def replaceTables (diagram : Diagram κ) (tables : List (Table κ)) : Diagram κ :=
  { diagram with tables := tables }

theorem updateTable_leads {diagram : Diagram κ} {id : Identifier} {table : Table κ}
    (hfind : diagram.table? id = some table) (patch : TablePatch κ) :
    (updateTable id patch).Leads diagram
      { diagram with
        tables := updateFirst (fun table => table.id == id) (fun table => table.apply patch)
          diagram.tables } := by
  have hchange : updateTableChange diagram id patch = .ok _ :=
    orRefuse_bind_eq_ok_iff.mpr ⟨table, hfind, rfl⟩
  exact ⟨_, hchange, rfl⟩

theorem updateTableChange_connects {diagram : Diagram κ} {id : Identifier} {patch : TablePatch κ}
    {change : Change κ} (h : updateTableChange diagram id patch = .ok change) :
    change.step.Connects diagram change.diagram := by
  obtain ⟨before, hfind, hchange⟩ := orRefuse_bind_eq_ok_iff.mp h
  obtain rfl := Except.ok.inj hchange
  obtain rfl : before.id = id := key_of_find? hfind
  have hleads : ∀ (tables : List (Table κ)) table patch,
      tables.find? (fun other => other.id == table.id) = some table →
        (updateTable table.id patch).Leads (replaceTables diagram tables)
          (replaceTables diagram (updateFirst (fun other => other.id == table.id)
            (fun other => other.apply patch) tables)) := by
    intro tables table patch hfound
    have hafter : (replaceTables diagram tables).table? table.id = some table := hfound
    exact updateTable_leads hafter patch
  exact .of_update hleads Table.id_apply Table.apply_replaceWith hfind patch rfl rfl

/-! ## Adding and removing tables -/

/-- What is left of a diagram without the given tables and the links at them. -/
def withoutTables (diagram : Diagram κ) (ids : List Identifier) : Diagram κ :=
  let taken := takePositioned (fun table => ids.contains table.id) diagram.tables
  { (detachLinks diagram (taken.1.map fun entry => entry.2.id)).2 with tables := taken.2 }

/-- Removing tables is refused only if some are asked for and none of them is there. -/
theorem removeTables_leads (diagram : Diagram κ) (ids : List Identifier)
    (h : ids ≠ [] →
      (takePositioned (fun table => ids.contains table.id) diagram.tables).1 ≠ []) :
    (removeTables ids).Leads diagram (withoutTables diagram ids) := by
  simp only [Leads, change, removeTablesChange]
  split
  · next first rest hnone => exact absurd hnone (h (List.cons_ne_nil first rest))
  · exact ⟨_, rfl, rfl⟩

theorem removeTablesChange_eq_ok {diagram : Diagram κ} {ids : List Identifier}
    {change : Change κ} (h : removeTablesChange diagram ids = .ok change) :
    change.diagram = withoutTables diagram ids ∧
      change.step = .removeTables
        (takePositioned (fun table => ids.contains table.id) diagram.tables).1
        (detachLinks diagram ((takePositioned (fun table => ids.contains table.id)
          diagram.tables).1.map fun entry => entry.2.id)).1 := by
  simp only [removeTablesChange] at h
  split at h
  · simp at h
  · obtain rfl := Except.ok.inj h
    exact ⟨rfl, rfl⟩

theorem removeTablesChange_connects {diagram : Diagram κ} {ids : List Identifier}
    {change : Change κ} (h : removeTablesChange diagram ids = .ok change) :
    change.step.Connects diagram change.diagram := by
  obtain ⟨hdiagram, hstep⟩ := removeTablesChange_eq_ok h
  rw [hdiagram, hstep]
  apply Step.Connects.of_leads
  · refine ⟨_, ⟨_, rfl, rfl⟩, ?_⟩
    -- First the tables come back, then the links at them.
    have htables : (insertTablesChange (withoutTables diagram ids)
        (takePositioned (fun table => ids.contains table.id) diagram.tables).1).diagram =
        { withoutTables diagram ids with tables := diagram.tables } := by
      simp only [insertTablesChange, withoutTables, insertPositioned_takePositioned]
    rw [htables]
    exact restore_leads diagram _ _ rfl rfl
  · have hforth := removeTables_leads diagram
      ((takePositioned (fun table => ids.contains table.id)
        diagram.tables).1.map fun entry => entry.2.id) takePositioned_taken_ne_nil
    rw [withoutTables, takePositioned_taken Table.id] at hforth
    exact hforth

theorem addTables_connects {diagram : Diagram κ} {tables : List (Table κ)}
    (h : ∀ table ∈ tables, diagram.table? table.id = none ∧ diagram.Unlinked table.id) :
    (Step.addTables tables).Connects diagram
      { diagram with tables := diagram.tables ++ tables } := by
  have hnew : ∀ table ∈ tables, diagram.table? table.id = none := fun table hmem =>
    (h table hmem).1
  obtain ⟨hkept, htaken⟩ := takePositioned_new hnew
  apply Step.Connects.of_leads
  · have hback := removeTables_leads { diagram with tables := diagram.tables ++ tables }
      (tables.map Table.id) (takePositioned_new_ne_nil hnew)
    have hids : (takePositioned (fun table => (tables.map Table.id).contains table.id)
        (diagram.tables ++ tables)).1.map (fun entry => entry.2.id) = tables.map Table.id := by
      have hmap := congrArg (List.map Table.id) htaken
      rwa [List.map_map] at hmap
    have hlinks : detachLinks { diagram with tables := diagram.tables ++ tables }
        (tables.map Table.id) =
        (⟨[], []⟩, { diagram with tables := diagram.tables ++ tables }) := by
      apply detachLinks_of_unlinked
      intro id hid
      obtain ⟨table, hmem, rfl⟩ := List.mem_map.mp hid
      exact (h table hmem).2
    simp only [withoutTables, hkept, hids, hlinks] at hback
    exact LeadsAll.single hback
  · refine ⟨_, rfl, ?_⟩
    simp only [insertTablesChange, insertPositioned_positionedFrom_length]

/-! ## Replacing all tables -/

/-- The identifiers of the tables that disappear when the tables are replaced. -/
def vanishing (before after : List (Table κ)) : List Identifier :=
  (before.filter fun old => !(after.any fun table => table.id == old.id)).map Table.id

theorem mem_vanishing {before after : List (Table κ)} {id : Identifier} :
    id ∈ vanishing before after ↔
      (∃ table ∈ before, table.id = id) ∧ ∀ table ∈ after, table.id ≠ id := by
  simp only [vanishing, List.mem_map, List.mem_filter, Bool.not_eq_true', List.any_eq_false,
    beq_iff_eq]
  constructor
  · rintro ⟨table, ⟨hmem, hnone⟩, rfl⟩
    exact ⟨⟨table, hmem, rfl⟩, hnone⟩
  · rintro ⟨⟨table, hmem, rfl⟩, hnone⟩
    exact ⟨table, ⟨hmem, hnone⟩, rfl⟩

/-- What becomes of a diagram whose tables are replaced. -/
def withTables (diagram : Diagram κ) (after : List (Table κ)) : Diagram κ :=
  { (detachLinks diagram (vanishing diagram.tables after)).2 with tables := after }

theorem setTables_override_leads (diagram : Diagram κ) (after : List (Table κ)) :
    (setTables after .override).Leads diagram (withTables diagram after) := ⟨_, rfl, rfl⟩

theorem unlinked_detachLinks {diagram : Diagram κ} {id : Identifier} (h : diagram.Unlinked id)
    (ids : List Identifier) : (detachLinks diagram ids).2.Unlinked id := by
  rw [detachLinks_eq]
  constructor
  · intro relationship hmem
    simp only [takePositioned_snd] at hmem
    exact h.1 relationship (List.mem_filter.mp hmem).1
  · intro dependency hmem
    simp only [takePositioned_snd] at hmem
    exact h.2 dependency (List.mem_filter.mp hmem).1

/-- Replacing all tables connects if no link stands at a table that is new. -/
theorem setTables_connects {diagram : Diagram κ} {after : List (Table κ)}
    (h : ∀ table ∈ after, diagram.table? table.id = none → diagram.Unlinked table.id) :
    (Step.setTables diagram.tables after
      (detachLinks diagram (vanishing diagram.tables after)).1).Connects diagram
      (withTables diagram after) := by
  apply Step.Connects.of_leads
  · refine ⟨_, setTables_override_leads _ diagram.tables, ?_⟩
    -- The tables that undoing makes vanish are new ones, so no link goes with them.
    have hunlinked : ∀ id ∈ vanishing after diagram.tables,
        (withTables diagram after).Unlinked id := by
      intro id hid
      obtain ⟨⟨table, hmem, rfl⟩, hnone⟩ := mem_vanishing.mp hid
      have hnew : diagram.table? table.id = none := by
        apply List.find?_eq_none.mpr
        intro old hold
        simpa using hnone old hold
      exact unlinked_detachLinks (h table hmem hnew) _
    have hback : withTables (withTables diagram after) diagram.tables =
        { withTables diagram after with tables := diagram.tables } := by
      have hlinks := detachLinks_of_unlinked hunlinked
      rw [withTables]
      change { (detachLinks (withTables diagram after) (vanishing after diagram.tables)).2 with
        tables := diagram.tables } = _
      rw [hlinks]
    rw [hback]
    exact restore_leads diagram _ _ rfl rfl
  · exact setTables_override_leads diagram after

theorem table?_ne_none_of_mem_merge {before given : List (Table κ)} {table : Table κ}
    (h : table ∈ tablesAfter before given .merge) :
    before.find? (fun old => old.id == table.id) ≠ none := by
  obtain ⟨old, hmem, hfind⟩ := List.mem_filterMap.mp h
  have hid : table.id = old.id := key_of_find? hfind
  intro hnone
  have hne := List.find?_eq_none.mp hnone old hmem
  simp [hid] at hne

end Mutation

end SchemaDiagram
