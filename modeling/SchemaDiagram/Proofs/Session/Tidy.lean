import SchemaDiagram.Proofs.Session.Effect

/-!
# Tidy diagrams

A diagram is tidy if nothing in it shares an identifier with another thing of its kind: tables,
relationships and dependencies as in distinct diagrams, and the fields and the indexes of every
table.  A mutation keeps a diagram tidy as long as what it puts in is new.
-/

namespace SchemaDiagram

variable {κ α : Type}

/-! ## Lists of parts -/

/-- An item of a list in which the first match has been changed is an old one, or the changed
match. -/
theorem mem_updateFirst {p : α → Bool} {change : α → α} {items : List α} {item : α}
    (h : item ∈ updateFirst p change items) :
    item ∈ items ∨ ∃ old, items.find? p = some old ∧ item = change old := by
  induction items with
  | nil => exact absurd h List.not_mem_nil
  | cons first rest ih =>
      by_cases hfirst : p first = true
      · rw [updateFirst, if_pos hfirst] at h
        rcases List.mem_cons.mp h with rfl | hrest
        · exact .inr ⟨first, List.find?_cons_of_pos hfirst, rfl⟩
        · exact .inl (List.mem_cons_of_mem _ hrest)
      · rw [updateFirst, if_neg hfirst] at h
        rcases List.mem_cons.mp h with rfl | hrest
        · exact .inl List.mem_cons_self
        · rcases ih hrest with hold | ⟨old, hfind, hsame⟩
          · exact .inl (List.mem_cons_of_mem _ hold)
          · exact .inr ⟨old, by rwa [List.find?_cons_of_neg hfirst], hsame⟩

theorem mem_updateFirst_of_mem {p : α → Bool} {change : α → α} {items : List α}
    {item : α} (h : item ∈ items) :
    item ∈ updateFirst p change items ∨
      items.find? p = some item ∧ change item ∈ updateFirst p change items := by
  induction items with
  | nil => exact absurd h List.not_mem_nil
  | cons first rest ih =>
      cases hp : p first with
      | true =>
          simp only [updateFirst, hp, List.find?_cons, if_true]
          rcases List.mem_cons.mp h with rfl | hrest
          · exact .inr ⟨rfl, List.mem_cons_self⟩
          · exact .inl (List.mem_cons_of_mem _ hrest)
      | false =>
          simp only [updateFirst, hp, List.find?_cons, Bool.false_eq_true, if_false]
          rcases List.mem_cons.mp h with rfl | hrest
          · exact .inl List.mem_cons_self
          · rcases ih hrest with hkept | ⟨hfind, hchanged⟩
            · exact .inl (List.mem_cons_of_mem _ hkept)
            · exact .inr ⟨hfind, List.mem_cons_of_mem _ hchanged⟩

theorem nodup_insertClamped {key : α → Identifier} {items : List α} {item : α}
    (hitems : (items.map key).Nodup)
    (hitem : items.find? (fun other => key other == key item) = none) (position : Nat) :
    ((insertClamped items position item).map key).Nodup := by
  have hperm : (insertClamped items position item).Perm (item :: items) :=
    List.perm_insertIdx item items (Nat.min_le_right _ _)
  rw [(hperm.map key).nodup_iff, List.map_cons, List.nodup_cons]
  refine ⟨?_, hitems⟩
  intro hmem
  obtain ⟨other, hother, hsame⟩ := List.mem_map.mp hmem
  exact List.find?_eq_none.mp hitem other hother (beq_iff_eq.mpr hsame)

theorem nodup_updateFirst {key : α → Identifier} {change : α → α} {items : List α}
    (h : (items.map key).Nodup) (hkey : ∀ item, key (change item) = key item) (p : α → Bool) :
    ((updateFirst p change items).map key).Nodup := by
  rwa [map_updateFirst hkey]

theorem nodup_eraseIdx {key : α → Identifier} {items : List α} (h : (items.map key).Nodup)
    (position : Nat) : ((items.eraseIdx position).map key).Nodup :=
  h.sublist ((List.eraseIdx_sublist items position).map key)

/-! ## Tidy tables and diagrams -/

/-- The fields of a table carry pairwise distinct identifiers, and so do its indexes. -/
structure Table.Distinct (table : Table κ) : Prop where
  fields : (table.fields.map Field.id).Nodup
  indexes : (table.indexes.map Index.id).Nodup

/-- An update of a table that gives fields or indexes gives ones with distinct identifiers. -/
structure TablePatch.Distinct (patch : TablePatch κ) : Prop where
  fields : ∀ fields, patch.fields = some fields → (fields.map Field.id).Nodup
  indexes : ∀ indexes, patch.indexes = some indexes → (indexes.map Index.id).Nodup

theorem Table.Distinct.apply {table : Table κ} (h : table.Distinct) {patch : TablePatch κ}
    (hpatch : patch.Distinct) : (table.apply patch).Distinct := by
  constructor
  · cases hfields : patch.fields with
    | none => simpa [Table.apply, hfields] using h.fields
    | some fields => simpa [Table.apply, hfields] using hpatch.fields fields hfields
  · cases hindexes : patch.indexes with
    | none => simpa [Table.apply, hindexes] using h.indexes
    | some indexes => simpa [Table.apply, hindexes] using hpatch.indexes indexes hindexes

/-- No two things of a kind share an identifier. -/
structure Diagram.Tidy (diagram : Diagram κ) : Prop extends diagram.Distinct where
  parts : ∀ table ∈ diagram.tables, table.Distinct

@[simp] theorem Diagram.tidy_touched {diagram : Diagram κ} {time : Timestamp} :
    (diagram.touched time).Tidy ↔ diagram.Tidy :=
  ⟨fun h => ⟨Diagram.distinct_touched.mp h.toDistinct, h.parts⟩,
    fun h => ⟨Diagram.distinct_touched.mpr h.toDistinct, h.parts⟩⟩

theorem Diagram.Tidy.of_empty {diagram : Diagram κ} (htables : diagram.tables = [])
    (hrelationships : diagram.relationships = []) (hdependencies : diagram.dependencies = []) :
    diagram.Tidy := by
  refine ⟨⟨?_, ?_, ?_⟩, ?_⟩
  · simp [htables]
  · simp [hrelationships]
  · simp [hdependencies]
  · simp [htables]

namespace Mutation

/-- The fields and the indexes that a mutation puts into a table carry identifiers that differ from
each other and from those in use in the table. -/
def BringsParts (diagram : Diagram κ) : Mutation κ → Prop
  | insertTables entries => ∀ table ∈ entries.map Prod.snd, table.Distinct
  | addTables tables => ∀ table ∈ tables, table.Distinct
  | setTables tables _ => ∀ table ∈ tables, table.Distinct
  | updateTable _ patch => patch.Distinct
  | insertField tableId field _ =>
    ∀ table, diagram.table? tableId = some table → table.field? field.id = none
  | insertIndex tableId index _ =>
    ∀ table, diagram.table? tableId = some table → table.index? index.id = none
  | _ => True

/-! ## Mutations of tidy diagrams -/

section

variable {diagram : Diagram κ} {change : Change κ} {table : Table κ} {tableId : Identifier}

/-- Changing a table. -/
theorem parts_updateFirst (hparts : ∀ table ∈ diagram.tables, table.Distinct) {id : Identifier}
    {change : Table κ → Table κ}
    (hchange : ∀ table, diagram.table? id = some table → table.Distinct →
      (change table).Distinct) :
    ∀ table ∈ updateFirst (fun table => table.id == id) change diagram.tables,
      table.Distinct := by
  intro table hmem
  rcases mem_updateFirst hmem with hold | ⟨old, hfind, rfl⟩
  · exact hparts table hold
  · exact hchange old hfind (hparts old (List.mem_of_find?_eq_some hfind))

/-! ### Tables -/

theorem parts_insertPositioned (hparts : ∀ table ∈ diagram.tables, table.Distinct)
    {entries : List (Nat × Table κ)} (hentries : ∀ table ∈ entries.map Prod.snd, table.Distinct) :
    ∀ table ∈ insertPositioned diagram.tables entries, table.Distinct := by
  intro table hmem
  rw [(insertPositioned_perm diagram.tables entries).mem_iff, List.mem_append] at hmem
  exact hmem.elim (hparts table) (hentries table)

theorem parts_removeTablesChange (hparts : ∀ table ∈ diagram.tables, table.Distinct)
    {ids : List Identifier} (h : removeTablesChange diagram ids = .ok change) :
    ∀ table ∈ change.diagram.tables, table.Distinct := by
  rw [(removeTablesChange_eq_ok h).1, withoutTables, takePositioned_snd]
  exact fun table hmem => hparts table (List.mem_filter.mp hmem).1

theorem parts_updateTableChange (hparts : ∀ table ∈ diagram.tables, table.Distinct)
    {id : Identifier} {patch : TablePatch κ} (hpatch : patch.Distinct)
    (h : updateTableChange diagram id patch = .ok change) :
    ∀ table ∈ change.diagram.tables, table.Distinct := by
  obtain ⟨_, _, hchange⟩ := orRefuse_bind_eq_ok_iff.mp h
  obtain rfl := Except.ok.inj hchange
  exact parts_updateFirst hparts fun _ _ hold => hold.apply hpatch

theorem parts_tablesAfter {before given : List (Table κ)}
    (hgiven : ∀ table ∈ given, table.Distinct) (mode : TablesMode) :
    ∀ table ∈ tablesAfter before given mode, table.Distinct := by
  cases mode with
  | override => exact hgiven
  | merge =>
      intro table hmem
      obtain ⟨old, -, hfind⟩ := List.mem_filterMap.mp hmem
      exact hgiven table (List.mem_of_find?_eq_some hfind)

/-! ### Fields and indexes -/

theorem parts_fieldsChange (hparts : ∀ table ∈ diagram.tables, table.Distinct)
    (hfind : diagram.table? tableId = some table) {fields : List Field}
    (hfields : table.Distinct → (fields.map Field.id).Nodup) {event : Event} {step : Step κ}
    (hchange : fieldsChange diagram tableId fields event step = change) :
    ∀ table ∈ change.diagram.tables, table.Distinct := by
  subst hchange
  have hnodup := hfields (hparts table (List.mem_of_find?_eq_some hfind))
  exact parts_updateFirst hparts fun _ _ hold => ⟨hnodup, hold.indexes⟩

theorem parts_indexesChange (hparts : ∀ table ∈ diagram.tables, table.Distinct)
    (hfind : diagram.table? tableId = some table) {indexes : List Index}
    (hindexes : table.Distinct → (indexes.map Index.id).Nodup) {step : Step κ}
    (hchange : indexesChange diagram tableId indexes step = change) :
    ∀ table ∈ change.diagram.tables, table.Distinct := by
  subst hchange
  have hnodup := hindexes (hparts table (List.mem_of_find?_eq_some hfind))
  exact parts_updateFirst hparts fun _ _ hold => ⟨hold.fields, hnodup⟩

theorem parts_insertFieldChange (hparts : ∀ table ∈ diagram.tables, table.Distinct)
    {field : Field} {position : Option Nat}
    (hnew : ∀ table, diagram.table? tableId = some table → table.field? field.id = none)
    (h : insertFieldChange diagram tableId field position = .ok change) :
    ∀ table ∈ change.diagram.tables, table.Distinct := by
  obtain ⟨table, hfind, hchange⟩ := orRefuse_bind_eq_ok_iff.mp h
  exact parts_fieldsChange hparts hfind
    (fun hold => nodup_insertClamped hold.fields (hnew table hfind) _) (Except.ok.inj hchange)

theorem parts_updateFieldChange (hparts : ∀ table ∈ diagram.tables, table.Distinct)
    {fieldId : Identifier} {patch : FieldPatch}
    (h : updateFieldChange diagram tableId fieldId patch = .ok change) :
    ∀ table ∈ change.diagram.tables, table.Distinct := by
  obtain ⟨table, hfind, hrest⟩ := orRefuse_bind_eq_ok_iff.mp h
  obtain ⟨_, -, hchange⟩ := orRefuse_bind_eq_ok_iff.mp hrest
  exact parts_fieldsChange hparts hfind
    (fun hold => nodup_updateFirst hold.fields (fun field => field.id_apply patch) _)
    (Except.ok.inj hchange)

theorem parts_removeFieldChange (hparts : ∀ table ∈ diagram.tables, table.Distinct)
    {fieldId : Identifier} (h : removeFieldChange diagram tableId fieldId = .ok change) :
    ∀ table ∈ change.diagram.tables, table.Distinct := by
  obtain ⟨table, hfind, hrest⟩ := orRefuse_bind_eq_ok_iff.mp h
  obtain ⟨_, -, hchange⟩ := orRefuse_bind_eq_ok_iff.mp hrest
  exact parts_fieldsChange hparts hfind (fun hold => nodup_eraseIdx hold.fields _)
    (Except.ok.inj hchange)

theorem parts_insertIndexChange (hparts : ∀ table ∈ diagram.tables, table.Distinct)
    {index : Index} {position : Option Nat}
    (hnew : ∀ table, diagram.table? tableId = some table → table.index? index.id = none)
    (h : insertIndexChange diagram tableId index position = .ok change) :
    ∀ table ∈ change.diagram.tables, table.Distinct := by
  obtain ⟨table, hfind, hchange⟩ := orRefuse_bind_eq_ok_iff.mp h
  exact parts_indexesChange hparts hfind
    (fun hold => nodup_insertClamped hold.indexes (hnew table hfind) _) (Except.ok.inj hchange)

theorem parts_updateIndexChange (hparts : ∀ table ∈ diagram.tables, table.Distinct)
    {indexId : Identifier} {patch : IndexPatch}
    (h : updateIndexChange diagram tableId indexId patch = .ok change) :
    ∀ table ∈ change.diagram.tables, table.Distinct := by
  obtain ⟨table, hfind, hrest⟩ := orRefuse_bind_eq_ok_iff.mp h
  obtain ⟨_, -, hchange⟩ := orRefuse_bind_eq_ok_iff.mp hrest
  exact parts_indexesChange hparts hfind
    (fun hold => nodup_updateFirst hold.indexes (fun index => index.id_apply patch) _)
    (Except.ok.inj hchange)

theorem parts_removeIndexChange (hparts : ∀ table ∈ diagram.tables, table.Distinct)
    {indexId : Identifier} (h : removeIndexChange diagram tableId indexId = .ok change) :
    ∀ table ∈ change.diagram.tables, table.Distinct := by
  obtain ⟨table, hfind, hrest⟩ := orRefuse_bind_eq_ok_iff.mp h
  obtain ⟨_, -, hchange⟩ := orRefuse_bind_eq_ok_iff.mp hrest
  exact parts_indexesChange hparts hfind (fun hold => nodup_eraseIdx hold.indexes _)
    (Except.ok.inj hchange)

end

/-! ### Every mutation -/

variable {diagram : Diagram κ}

/-- The tables that a mutation leaves have distinct parts if it brings only new ones. -/
theorem change_parts {mutation : Mutation κ} {change : Change κ}
    (hchange : mutation.change diagram = .ok change)
    (hparts : ∀ table ∈ diagram.tables, table.Distinct) (hnew : mutation.BringsParts diagram) :
    ∀ table ∈ change.diagram.tables, table.Distinct := by
  cases mutation with
  | insertTables entries =>
      obtain rfl := Except.ok.inj hchange
      exact parts_insertPositioned hparts hnew
  | addTables tables =>
      obtain rfl := Except.ok.inj hchange
      exact parts_insertPositioned hparts (by rwa [positionedFrom_map_snd])
  | removeTables ids => exact parts_removeTablesChange hparts hchange
  | updateTable id patch => exact parts_updateTableChange hparts hnew hchange
  | setTables tables mode =>
      obtain rfl := Except.ok.inj hchange
      exact parts_tablesAfter hnew mode
  | insertField tableId field position => exact parts_insertFieldChange hparts hnew hchange
  | updateField tableId fieldId patch => exact parts_updateFieldChange hparts hchange
  | removeField tableId fieldId => exact parts_removeFieldChange hparts hchange
  | insertIndex tableId index position => exact parts_insertIndexChange hparts hnew hchange
  | updateIndex tableId indexId patch => exact parts_updateIndexChange hparts hchange
  | removeIndex tableId indexId => exact parts_removeIndexChange hparts hchange
  -- What follows leaves the tables alone.
  | renameDiagram | insertRelationships | addRelationships | insertDependencies
  | addDependencies =>
      obtain rfl := Except.ok.inj hchange
      exact hparts
  | updateRelationship | updateDependency =>
      obtain ⟨_, _, hrest⟩ := orRefuse_bind_eq_ok_iff.mp hchange
      obtain rfl := Except.ok.inj hrest
      exact hparts
  | removeRelationships ids =>
      rw [(removeRelationshipsChange_eq_ok hchange).1]
      exact hparts
  | removeDependencies ids =>
      rw [(removeDependenciesChange_eq_ok hchange).1]
      exact hparts

/-- A mutation that puts in new things only keeps a diagram tidy. -/
theorem change_tidy {mutation : Mutation κ} {change : Change κ}
    (hchange : mutation.change diagram = .ok change) (htidy : diagram.Tidy)
    (hnew : mutation.BringsNew diagram) (hparts : mutation.BringsParts diagram) :
    change.diagram.Tidy :=
  ⟨(change_effect hchange).distinct htidy.toDistinct hnew,
    change_parts hchange htidy.parts hparts⟩

end Mutation

end SchemaDiagram
