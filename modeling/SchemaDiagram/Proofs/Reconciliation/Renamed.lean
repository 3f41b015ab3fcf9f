import SchemaDiagram.Proofs.Reconciliation.Drawn
import SchemaDiagram.Proofs.Reconciliation.NewNames
import SchemaDiagram.Proofs.Reconciliation.Unchanged

/-!
# Renamed tables are recognised

Whoever renames tables in the text of a model declares as many tables as there are, and in every
hash class as many new names as names are missing.  So every table keeps a declaration, although it
may be the declaration of another table with the same fields.  Where no two of the renamed tables
have the same hash, each of them finds its own, and the new names are all that changes: the lines of
the relationships are written with the new names, and lead back to where the relationships stand.
-/

namespace SchemaDiagram

open Reconciliation SchemaDiagram.Text

variable {κ : Type}

/-! ## Renaming tables -/

def Table.withName (table : Table κ) (name : String) : Table κ :=
  { table with name := name }

/-- Tables under the names that they are to have. -/
def renameTables (newName : Table κ → String) (tables : List (Table κ)) : List (Table κ) :=
  tables.map fun table => table.withName (newName table)

theorem Table.Regular.withName {table : Table κ} (h : table.Regular) (name : String) :
    (table.withName name).Regular :=
  ⟨h.fieldNames, h.keysUnique, h.covers, h.keysFirst, h.indexNames⟩

theorem Endpoint.StandsAt.renamed {tables : List (Table κ)} {endpoint : Endpoint}
    (h : endpoint.StandsAt tables) (newName : Table κ → String) :
    endpoint.StandsAt (renameTables newName tables) := by
  obtain ⟨table, hmem, hid, hschema, hfield⟩ := h
  exact ⟨table.withName (newName table), List.mem_map_of_mem hmem, hid, hschema, hfield⟩

namespace NewNames

variable {tables : List (Table κ)} {newName : Table κ → String}

theorem writable_renameTables {dialect : Dialect} {relationships : List Relationship}
    (h : NewNames Table.name tables newName)
    (hwritable : SchemaText.Writable dialect tables relationships) :
    SchemaText.Writable dialect (renameTables newName tables) relationships := by
  have hwords := h.isWord_newName fun table hmem => (hwritable.tables table hmem).name
  exact ⟨List.forall_mem_map.mpr fun table hmem =>
    ⟨hwords table hmem, (hwritable.tables table hmem).fields⟩, hwritable.relationships⟩

theorem regular_renameTables [BEq κ] {relationships : List Relationship}
    (h : NewNames Table.name tables newName) (hregular : Regular tables relationships) :
    Regular (renameTables newName tables) relationships := by
  constructor
  · rw [renameTables, List.map_map]
    exact hregular.tableIds
  · rw [renameTables, List.map_map]
    exact h.nodup hregular.tableNames
  · exact hregular.linkNames
  · exact List.forall_mem_map.mpr fun table hmem => (hregular.tables table hmem).withName _
  · exact List.forall_mem_map.mpr hregular.placed
  · exact fun link hmem => (hregular.sources link hmem).renamed newName
  · exact fun link hmem => (hregular.targets link hmem).renamed newName

end NewNames

namespace Reconciliation

/-! ## New and missing names -/

/-- What the text of the renamed tables declares. -/
def declaredAs (newName : Table κ → String) (tables : List (Table κ)) : List TableDeclaration :=
  tables.map fun table => (table.withName (newName table)).declared

section

variable {tables : List (Table κ)} {newName : Table κ → String}

theorem map_declared_renameTables (newName : Table κ → String) (tables : List (Table κ)) :
    (renameTables newName tables).map Table.declared = declaredAs newName tables := by
  rw [renameTables, List.map_map]
  rfl

theorem forall₂_declaresAs (newName : Table κ → String) (tables : List (Table κ)) :
    List.Forall₂ (DeclaresAs tableEntity newName) (declaredAs newName tables) tables :=
  List.forall₂_map_left_iff.mpr (List.forall₂_same.mpr fun _ _ => ⟨rfl, rfl, rfl⟩)

/-- No renamed table is gone. -/
theorem matchTables_rescuing (h : NewNames Table.name tables newName)
    (hnames : (tables.map Table.name).Nodup) :
    (matchTables (declaredAs newName tables) tables).Rescuing (tables.map tableEntity)
      (tables.map tableEntity) (declaredAs newName tables) :=
  matchEntities_rescuing_of_newNames (forall₂_declaresAs newName tables) h hnames

/-- Every declaration stands for a table. -/
theorem existingTable?_ne_none (h : NewNames Table.name tables newName)
    (hnames : (tables.map Table.name).Nodup) {declaration : TableDeclaration}
    (hmem : declaration ∈ (matchTables (declaredAs newName tables) tables).declarations) :
    existingTable? tables declaration ≠ none :=
  standsFor?_ne_none_of_newNames (forall₂_declaresAs newName tables) h hnames hmem

end

/-! ## Changes of renamed tables -/

/-- Nothing is created if every declaration stands for a table. -/
theorem TableChanges.created_of_existing [Coordinate κ] {live : List (Table κ)}
    {declarations : List TableDeclaration}
    (h : ∀ declaration ∈ declarations, existingTable? live declaration ≠ none) (supply : Supply)
    (changes : TableChanges κ) :
    (declareAll live supply changes declarations).created = changes.created := by
  induction declarations generalizing supply changes with
  | nil => rfl
  | cons declaration rest ih =>
      rw [declareAll, ih fun other hother => h other (List.mem_cons_of_mem _ hother)]
      rcases changes.declare_cases live supply declaration with
        ⟨hnone, -⟩ | ⟨table, -, ⟨-, heq⟩ | heq⟩
      · exact absurd hnone (h declaration List.mem_cons_self)
      · rw [heq]
      · rw [heq]

/-- A declaration stands for a table and says of it what there is, but for the name. -/
structure Renames (live : List (Table κ)) (newName : Table κ → String)
    (declaration : TableDeclaration) (table : Table κ) : Prop where
  stands : existingTable? live declaration = some table
  patch : ∀ supply, table.apply (tablePatch supply declaration table) =
    table.withName (newName table)

/-- An update of a table that changes the name. -/
def IsRename (newName : Table κ → String) (update : Identifier × TablePatch κ) (table : Table κ) :
    Prop :=
  update.1 = table.id ∧ table.apply update.2 = table.withName (newName table)

/-- Updating the first item that satisfies a predicate. -/
theorem updateFirst_of_first {α : Type} {p : α → Bool} {change : α → α} {before after : List α}
    {item : α} (hbefore : ∀ other ∈ before, p other = false) (hitem : p item = true) :
    updateFirst p change (before ++ item :: after) = before ++ change item :: after := by
  induction before with
  | nil => rw [List.nil_append, List.nil_append, updateFirst, if_pos hitem]
  | cons first rest ih =>
      have hrest := ih fun other hother => hbefore other (List.mem_cons_of_mem _ hother)
      rw [List.cons_append, updateFirst, hbefore first List.mem_cons_self,
        if_neg Bool.false_ne_true, hrest, List.cons_append]

section

variable [Coordinate κ] {live done rest : List (Table κ)} {newName : Table κ → String}
  {declaration : TableDeclaration} {table : Table κ} {changes : TableChanges κ}

/-- A table that keeps its name is not changed. -/
theorem Renames.declare_kept (h : Renames live newName declaration table) (hplaced : table.Placed)
    (hkept : newName table = table.name) (supply : Supply) :
    changes.declare live supply declaration = changes := by
  have hsame : table.withName (newName table) = table := by rw [hkept]; rfl
  simp only [TableChanges.declare, h.stands, h.patch, hsame, hplaced.beq_self, if_true]

/-- A table that is to have another name is updated, and nothing but the name changes. -/
theorem Renames.declare_renamed (h : Renames live newName declaration table)
    (hrenamed : newName table ≠ table.name) (supply : Supply) :
    ∃ update, IsRename newName update table ∧
      changes.declare live supply declaration =
        { changes with
          projected := updateFirst (fun other => other.id == table.id)
            (fun _ => table.withName (newName table)) changes.projected
          updated := changes.updated ++ [update] } := by
  have hpatch := h.patch (supply.drop 1)
  refine ⟨(table.id, tablePatch (supply.drop 1) declaration table), ⟨rfl, hpatch⟩, ?_⟩
  have hdiffers : (table.withName (newName table) == table) = false := by
    by_contra hsame
    rw [Bool.not_eq_false, ← hpatch] at hsame
    have heq := Table.apply_eq_of_beq rfl hsame
    rw [hpatch] at heq
    exact hrenamed (congrArg Table.name heq)
  simp only [TableChanges.declare, h.stands, hpatch, hdiffers, Bool.false_eq_true, if_false]

/-- What is known when the tables in `done` have been taken into account: those in `rest` are as
they were. -/
theorem declareAll_of_renames (hids : ((done ++ rest).map Table.id).Nodup)
    (hplaced : ∀ table ∈ rest, table.Placed) {declarations : List TableDeclaration}
    (h : List.Forall₂ (Renames live newName) declarations rest)
    (hprojected : changes.projected = renameTables newName done ++ rest) (supply : Supply) :
    ∃ updates, List.Forall₂ (IsRename newName) updates
        (rest.filter fun table => newName table != table.name) ∧
      TableChanges.declareAll live supply changes declarations =
        { changes with
          projected := renameTables newName (done ++ rest)
          updated := changes.updated ++ updates } := by
  induction h generalizing done changes supply with
  | nil =>
      refine ⟨[], .nil, ?_⟩
      rw [List.append_nil, List.append_nil] at *
      rw [TableChanges.declareAll, ← hprojected]
  | @cons declaration table declarations rest hfirst _ ih =>
      have hsplit : done ++ table :: rest = (done ++ [table]) ++ rest := by simp
      have hfresh : ∀ other ∈ renameTables newName done, (other.id == table.id) = false := by
        refine List.forall_mem_map.mpr fun other hother => ?_
        rw [List.map_append, List.nodup_append] at hids
        exact beq_eq_false_iff_ne.mpr (hids.2.2 other.id (List.mem_map_of_mem hother) table.id
          (List.mem_map_of_mem List.mem_cons_self))
      rw [TableChanges.declareAll, hsplit]
      rw [hsplit] at hids
      have hrest : ∀ other ∈ rest, other.Placed :=
        fun other hother => hplaced other (List.mem_cons_of_mem _ hother)
      have hdone : renameTables newName (done ++ [table]) ++ rest =
          renameTables newName done ++ table.withName (newName table) :: rest := by
        simp [renameTables]
      by_cases hkept : newName table = table.name
      · have hsame : table.withName (newName table) = table := by rw [hkept]; rfl
        rw [hfirst.declare_kept (hplaced table List.mem_cons_self) hkept,
          List.filter_cons_of_neg (by simpa using hkept)]
        apply ih hids hrest
        rw [hprojected, hdone, hsame]
      · obtain ⟨update, hupdate, hdeclare⟩ := hfirst.declare_renamed hkept supply
        have hnext : (changes.declare live supply declaration).projected =
            renameTables newName (done ++ [table]) ++ rest := by
          rw [hdeclare, hprojected, hdone]
          exact updateFirst_of_first hfresh (beq_self_eq_true _)
        obtain ⟨updates, hupdates, hall⟩ :=
          ih hids hrest hnext (supply.drop (tableStamps declaration))
        rw [List.filter_cons_of_pos (by simpa using hkept)]
        refine ⟨update :: updates, .cons hupdate hupdates, ?_⟩
        rw [hall, hdeclare]
        simp only [List.append_assoc, List.cons_append, List.nil_append]

end

/-! ## Which table a declaration stands for -/

theorem apply_tablePatch_withName {table : Table κ} (h : table.Regular) (name : String)
    (supply : Supply) :
    table.apply (tablePatch supply (table.withName name).declared table) = table.withName name := by
  have hrenamed := h.withName name
  exact hrenamed.settled.apply_tablePatch hrenamed.regular_declared supply

section

variable {tables : List (Table κ)} {newName : Table κ → String}

/-- Where no two renamed tables have the same hash, the declaration of a table stands for it. -/
theorem existingTable?_of_attached (h : NewNames Table.name tables newName)
    (hids : (tables.map Table.id).Nodup) (hnames : (tables.map Table.name).Nodup)
    (hhashes : ((tables.filter fun table => newName table != table.name).map
      ContentHash.ofTable).Nodup)
    {declaration : TableDeclaration} {table : Table κ}
    (hmem : declaration ∈ (matchTables (declaredAs newName tables) tables).declarations)
    (htable : table ∈ tables)
    (hattached : Attached declaration (table.withName (newName table)).declared) :
    existingTable? tables declaration = some table := by
  have hentityHashes : ((tables.filter fun table => newName table != table.name).map fun table =>
      (tableEntity table).contentHash).Nodup := by
    have hsome := hhashes.map (Option.some_injective Int32)
    rwa [List.map_map] at hsome
  exact standsFor?_of_newNames (forall₂_declaresAs newName tables) h hnames hids
    hentityHashes hmem htable hattached ⟨rfl, rfl, rfl⟩

theorem forall₂_renames [BEq κ] {relationships : List Relationship}
    (h : NewNames Table.name tables newName) (hregular : Regular tables relationships)
    (hhashes : ((tables.filter fun table => newName table != table.name).map
      ContentHash.ofTable).Nodup) :
    List.Forall₂ (Renames tables newName)
      (matchTables (declaredAs newName tables) tables).declarations tables := by
  have hattached := (matchTables_rescuing h hregular.tableNames).attached
  refine (forall₂_mem (List.forall₂_map_right_iff.mp hattached)).imp ?_
  rintro declaration table ⟨hmem, htable, hsame⟩
  refine ⟨existingTable?_of_attached h hregular.tableIds hregular.tableNames hhashes hmem htable
    hsame, fun supply => ?_⟩
  have hpatch := apply_tablePatch_withName (hregular.tables table htable) (newName table) supply
  rcases hsame with rfl | ⟨id, rfl⟩
  · exact hpatch
  · exact hpatch

end

/-! ## The plan -/

/-- The relationships of a settled model are found by their names, whatever the tables were called
before. -/
theorem matchRelationships_of_settles {schema : DeclaredSchema} {live : List (Table κ)}
    {linked : List Relationship} (h : schema.Settles live linked) (before : List (Table κ)) :
    matchRelationships schema.relationships before linked = ⟨schema.relationships, []⟩ := by
  apply matchEntities_of_named
  refine List.forall_mem_map.mpr fun link hlink => ?_
  exact h.linksDeclared link hlink

/-- What the text of a model declares when its tables are renamed. -/
def renamedSchema (newName : Table κ → String) (tables : List (Table κ))
    (relationships : List Relationship) : DeclaredSchema :=
  ⟨declaredAs newName tables,
    relationships.filterMap (Relationship.declared? (renameTables newName tables))⟩

theorem settles_renamedSchema [BEq κ] {tables : List (Table κ)}
    {relationships : List Relationship} {newName : Table κ → String}
    (h : NewNames Table.name tables newName) (hregular : Regular tables relationships) :
    (renamedSchema newName tables relationships).Settles (renameTables newName tables)
      relationships :=
  (h.regular_renameTables hregular).settles
    (.of_eq (map_declared_renameTables newName tables).symm) (.refl _)

/-- Where the renamed tables have distinct hashes, nothing but their names is updated. -/
theorem reconcile_renamedSchema [Coordinate κ] {tables : List (Table κ)}
    {relationships : List Relationship} {newName : Table κ → String}
    (h : NewNames Table.name tables newName) (hregular : Regular tables relationships)
    (hhashes : ((tables.filter fun table => newName table != table.name).map
      ContentHash.ofTable).Nodup) (supply : Supply) :
    ∃ updates,
      List.Forall₂ (IsRename newName) updates
        (tables.filter fun table => newName table != table.name) ∧
      reconcile supply (renamedSchema newName tables relationships) tables relationships =
        { updatedTables := updates } := by
  have hids : (([] ++ tables).map Table.id).Nodup := hregular.tableIds
  have hstart : ({ projected := tables } : TableChanges κ).projected =
      renameTables newName [] ++ tables := rfl
  obtain ⟨updates, hupdates, hchanges⟩ := declareAll_of_renames hids hregular.placed
    (forall₂_renames h hregular hhashes) hstart supply
  have hgone : (matchTables (declaredAs newName tables) tables).gone = [] :=
    (matchTables_rescuing h hregular.tableNames).gone
  have hlive : (tables.filter fun table => !([] : List Identifier).contains table.id) = tables := by
    simp
  have hleft : surviving [] relationships = relationships := by
    simp [surviving, Relationship.touchesAny]
  have hsettles := settles_renamedSchema h hregular
  have hlinks := matchRelationships_of_settles hsettles tables
  refine ⟨updates, hupdates, ?_⟩
  simp only [reconcile, reconcileTables, renamedSchema, hgone, hlive, hleft, hchanges,
    List.nil_append]
  rw [renamedSchema] at hlinks hsettles
  rw [hlinks, reconcileRelationships_of_kept fun _ => existingRelationship?_of_settles hsettles]

/-- Renaming tables in the text of a model deletes and creates no table.  Where the renamed tables
have distinct hashes, it only updates the names of these tables. -/
theorem reconcile_renamed [Coordinate κ] (dialect : Dialect) (tables : List (Table κ))
    (relationships : List Relationship) (supply : Supply) (newName : Table κ → String)
    (hwritable : SchemaText.Writable dialect tables relationships)
    (hregular : Regular tables relationships) (hrenaming : NewNames Table.name tables newName) :
    let text := SchemaText.generate (renameTables newName tables) relationships
    let plan := reconcile supply (SchemaText.parse dialect text) tables relationships
    let renamed := tables.filter fun table => newName table != table.name
    plan.deletedTables = [] ∧ plan.createdTables = [] ∧
      ((renamed.map ContentHash.ofTable).Nodup →
        ∃ updates, List.Forall₂ (IsRename newName) updates renamed ∧
          plan = { updatedTables := updates }) := by
  intro text plan renamed
  have hparsed : SchemaText.parse dialect text = renamedSchema newName tables relationships := by
    rw [SchemaText.parse_generate dialect _ _ (hrenaming.writable_renameTables hwritable),
      map_declared_renameTables, renamedSchema]
  have hplan : plan = reconcile supply (renamedSchema newName tables relationships) tables
      relationships := by rw [← hparsed]
  rw [hplan]
  refine ⟨?_, ?_, fun hhashes => ?_⟩
  · exact (matchTables_rescuing hrenaming hregular.tableNames).gone
  · exact TableChanges.created_of_existing
      (fun _ hmem => existingTable?_ne_none hrenaming hregular.tableNames hmem) supply _
  · exact reconcile_renamedSchema hrenaming hregular hhashes supply

/-! ## Two tables renamed at once -/

/-- New names for both tables with notes. -/
def purchaseNames (table : Table Float) : String :=
  if table.name = "orders" then "purchases" else "people"

/-- Fields whose names are in order are hashed in this order. -/
theorem ofTable_of_sorted {table : Table κ}
    (h : (table.fields.map Field.name).Pairwise fun left right => decide (left ≤ right) = true) :
    ContentHash.ofTable table = ContentHash.ofParts (table.fields.map Field.name) := by
  rw [ContentHash.ofTable, ContentHash.ofFieldNames, List.mergeSort_of_pairwise h]

theorem reconcile_purchases :
    let text := SchemaText.generate (renameTables purchaseNames [notedTable, schemaTable])
      [notedLink]
    let plan := reconcile countingSupply (SchemaText.parse .generic text)
      [notedTable, schemaTable] [notedLink]
    plan.deletedTables = [] ∧ plan.createdTables = [] ∧
      ∃ updates, List.Forall₂ (IsRename purchaseNames) updates [notedTable, schemaTable] ∧
        plan = { updatedTables := updates } := by
  intro text plan
  have hrenaming : NewNames Table.name [notedTable, schemaTable] purchaseNames := by
    refine ⟨?_, ?_, ?_⟩
    · rw [List.forall_mem_cons, List.forall_mem_singleton]
      exact ⟨fun _ => by decide, fun _ => by decide⟩
    · rintro first hfirst second hsecond - -
      rcases List.mem_pair.mp hfirst with rfl | rfl <;>
        rcases List.mem_pair.mp hsecond with rfl | rfl
      · exact fun _ => rfl
      · exact fun hsame => absurd hsame (by decide)
      · exact fun hsame => absurd hsame (by decide)
      · exact fun _ => rfl
    · rw [List.forall_mem_cons, List.forall_mem_singleton]
      exact ⟨fun _ => by decide, fun _ => by decide⟩
  have hhashes : ([notedTable, schemaTable].map ContentHash.ofTable).Nodup := by
    rw [List.map_cons, List.map_singleton, ofTable_of_sorted (by decide),
      ofTable_of_sorted (by decide)]
    decide +kernel
  obtain ⟨hdeleted, hcreated, hupdated⟩ := reconcile_renamed .generic [notedTable, schemaTable]
    [notedLink] countingSupply purchaseNames writable_noted regular_noted hrenaming
  exact ⟨hdeleted, hcreated, hupdated hhashes⟩

end Reconciliation

end SchemaDiagram
