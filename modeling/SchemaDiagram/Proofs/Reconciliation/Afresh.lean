import SchemaDiagram.Proofs.Reconciliation.Lent
import SchemaDiagram.Proofs.SchemaText.Declared

/-!
# A schema in an empty model

Where there is nothing yet, a plan makes one table for each declared table and one relationship for
each declared relationship between declared fields.  The model that comes out declares what was
declared, without the indexes and relationships that name fields which are not declared; and what a
model declares once is left as it is when it is made again.
-/

namespace SchemaDiagram

open Reconciliation

variable {κ : Type}

/-! ## What is kept of a declaration -/

/-- Whether an index covers some field, and only fields that are declared along with it. -/
def TableDeclaration.covers (table : TableDeclaration) (index : IndexDeclaration) : Bool :=
  !index.fields.isEmpty && index.fields.all fun name => table.fieldNames.contains name

/-- A declared table without the indexes that cannot be made. -/
def TableDeclaration.kept (table : TableDeclaration) : TableDeclaration :=
  { table with
    indexes := table.indexes.filter table.covers
    contentHash := ContentHash.ofFieldNames table.fieldNames
    existingId := none }

/-- Whether the first of some tables with a name declares a field. -/
def hasField (tables : List TableDeclaration) (tableName fieldName : String) : Bool :=
  (tables.find? fun table => table.name == tableName).any fun table =>
    table.fieldNames.contains fieldName

/-- Whether both ends of a relationship are declared. -/
def RelationshipDeclaration.joins (tables : List TableDeclaration)
    (relationship : RelationshipDeclaration) : Bool :=
  hasField tables relationship.sourceTable relationship.sourceField &&
    hasField tables relationship.targetTable relationship.targetField

/-- A declared relationship that is made. -/
def RelationshipDeclaration.kept (relationship : RelationshipDeclaration) :
    RelationshipDeclaration :=
  { relationship with
    contentHash := ContentHash.ofEnds relationship.sourceTable relationship.sourceField
      relationship.targetTable relationship.targetField
    existingId := none }

/-- What an empty model keeps of a schema. -/
def DeclaredSchema.kept (schema : DeclaredSchema) : DeclaredSchema where
  tables := schema.tables.map TableDeclaration.kept
  relationships :=
    (schema.relationships.filter (RelationshipDeclaration.joins schema.tables)).map
      RelationshipDeclaration.kept

theorem TableDeclaration.kept_kept (table : TableDeclaration) : table.kept.kept = table.kept := by
  have hcovers : table.kept.covers = table.covers := rfl
  have hnames : table.kept.fieldNames = table.fieldNames := rfl
  rw [kept, hcovers, hnames]
  simp only [kept, List.filter_filter, Bool.and_self]

theorem hasField_kept (tables : List TableDeclaration) (tableName fieldName : String) :
    hasField (tables.map TableDeclaration.kept) tableName fieldName =
      hasField tables tableName fieldName := by
  rw [hasField, List.find?_map, Option.any_map, hasField]
  rfl

/-- What is kept is kept entirely. -/
theorem DeclaredSchema.kept_kept (schema : DeclaredSchema) : schema.kept.kept = schema.kept := by
  have hjoins : RelationshipDeclaration.joins (schema.tables.map TableDeclaration.kept) =
      RelationshipDeclaration.joins schema.tables := by
    funext relationship
    simp only [RelationshipDeclaration.joins, hasField_kept]
  have htables : schema.kept.kept.tables = schema.kept.tables := by
    simp only [kept, List.map_map, Function.comp_def, TableDeclaration.kept_kept]
  have hrelationships : schema.kept.kept.relationships = schema.kept.relationships := by
    have hagain : ((schema.relationships.filter
        (RelationshipDeclaration.joins schema.tables)).map RelationshipDeclaration.kept).filter
          (RelationshipDeclaration.joins schema.tables) =
        (schema.relationships.filter (RelationshipDeclaration.joins schema.tables)).map
          RelationshipDeclaration.kept := by
      rw [List.filter_eq_self]
      intro relationship hmem
      obtain ⟨declared, hdeclared, rfl⟩ := List.mem_map.mp hmem
      exact (List.mem_filter.mp hdeclared).2
    rw [kept, kept]
    dsimp only
    rw [hjoins, hagain, List.map_map]
    rfl
  calc
    schema.kept.kept = ⟨schema.kept.kept.tables, schema.kept.kept.relationships⟩ := rfl
    _ = schema.kept := by rw [htables, hrelationships]

namespace Reconciliation

/-- If every item declares what it goes along with or nothing, what is declared is a part of the
declarations. -/
theorem filterMap_eq_filter_of_forall₂ {α δ : Type} {f : α → Option δ} {p : δ → Bool}
    {items : List α} {declarations : List δ}
    (h : List.Forall₂ (fun item declaration =>
      f item = if p declaration then some declaration else none) items declarations) :
    items.filterMap f = declarations.filter p := by
  induction h with
  | nil => rfl
  | @cons item declaration _ _ hfirst _ ih =>
      by_cases hp : p declaration = true
      · rw [if_pos hp] at hfirst
        rw [List.filterMap_cons_some hfirst, List.filter_cons_of_pos hp, ih]
      · rw [if_neg hp] at hfirst
        rw [List.filterMap_cons_none hfirst, List.filter_cons_of_neg hp, ih]

/-! ## Tables -/

/-- A built field declares what it was built for. -/
theorem declared_of_realizes {field : Field} {declaration : FieldDeclaration}
    (h : field.Realizes declaration)
    (hunique : declaration.primaryKey = true → declaration.unique = true) :
    field.declared = declaration := by
  have hflags : (field.unique || field.primaryKey) = field.unique := by
    rw [h.unique, h.primaryKey]
    by_cases hkey : declaration.primaryKey = true
    · rw [hkey, hunique hkey, Bool.or_true]
    · simp [hkey]
  rw [Field.declared, hflags, h.name, h.dataType, h.nullable, h.unique, h.primaryKey, h.comment]

/-- The fields of an index that was built are those that it was declared over. -/
theorem indexFields_of_fieldIds {table : Table κ} (hids : (table.fields.map Field.id).Nodup)
    {names : List String} {ids : List Identifier}
    (h : names.mapM (fun name =>
      (table.fields.find? fun field => field.name == name).map Field.id) = some ids) :
    ids.filterMap (fun id => (table.field? id).map Field.name) = names := by
  have hnamed : List.Forall₂ (fun id name => (table.field? id).map Field.name = some name)
      ids names := by
    refine (mapM_eq_some_iff.mp h).imp fun id name hid => ?_
    obtain ⟨field, hfield, rfl⟩ := Option.map_eq_some_iff.mp hid
    have hback : table.field? field.id = some field :=
      find?_key hids (List.mem_of_find?_eq_some hfield)
    rw [hback, Option.map_some, key_of_find? hfield]
  have hkept := filterMap_eq_filter_of_forall₂ (p := fun _ => true) (hnamed.imp fun _ _ hid => hid)
  rwa [List.filter_true] at hkept

theorem isSome_find?_name (fields : List Field) (name : String) :
    (fields.find? fun field => field.name == name).isSome =
      (fields.map Field.name).contains name := by
  rw [Bool.eq_iff_iff]
  simp

/-- A declared index can be made exactly if all of its fields are there. -/
theorem isSome_fieldIds? (fields : List Field) (index : IndexDeclaration) :
    (index.fieldIds? fields).isSome =
      index.fields.all fun name => (fields.map Field.name).contains name := by
  rw [IndexDeclaration.fieldIds?]
  induction index.fields with
  | nil => rfl
  | cons name rest ih =>
      rw [List.mapM_cons, List.all_cons, ← ih, ← isSome_find?_name]
      cases fields.find? fun field => field.name == name with
      | none => rfl
      | some field =>
          cases rest.mapM fun name =>
            (fields.find? fun field => field.name == name).map Field.id <;> rfl

/-- The indexes of a table that were built declare what they were built for; an index over no field
declares nothing. -/
theorem declared?_of_realizes {table : Table κ} (hids : (table.fields.map Field.id).Nodup)
    {index : Index} {declaration : IndexDeclaration} (h : index.Realizes table.fields declaration) :
    index.declared? table = if declaration.fields.isEmpty then none else some declaration := by
  have hfields : SchemaText.indexFields table index = declaration.fields :=
    indexFields_of_fieldIds hids h.fieldIds
  rw [Index.declared?, hfields, h.name, h.unique]

/-- A table that is made in an empty model declares what is kept of its declaration. -/
theorem declared_newTable [Coordinate κ] {supply : Supply} {declaration : TableDeclaration}
    (hunique : ∀ field ∈ declaration.fields, field.primaryKey = true → field.unique = true)
    (hids : ((newTable supply declaration : Table κ).fields.map Field.id).Nodup) :
    (newTable supply declaration : Table κ).declared = declaration.kept := by
  generalize hmade : (newTable supply declaration : Table κ) = table at hids
  have hrealizes : List.Forall₂ Field.Realizes table.fields declaration.fields := by
    rw [← hmade]
    exact buildFields_realizes (supply.drop 1) [] hunique
  have hfields : table.fields.map Field.declared = declaration.fields := by
    conv => rhs; rw [← List.map_id declaration.fields]
    apply map_eq_of_forall₂
    refine (forall₂_mem hrealizes).imp fun field declared h => ?_
    exact declared_of_realizes h.2.2 (hunique declared h.2.1)
  have hnames : table.fields.map Field.name = declaration.fieldNames :=
    map_name_of_realizes hrealizes
  have hbuilt : List.Forall₂ (Index.Realizes table.fields) table.indexes
      (declaration.knownIndexes table.fields) := by
    rw [← hmade]
    exact built_realizes (supply.drop (1 + declaration.fields.length)) []
      (newTable (κ := κ) supply declaration).fields declaration
  have hindexes : (table.indexes.filter fun index => !index.isPrimaryKey).filterMap
      (Index.declared? table) = declaration.indexes.filter declaration.covers := by
    have hothers : table.indexes.filter (fun index => !index.isPrimaryKey) = table.indexes := by
      rw [List.filter_eq_self]
      intro index hindex
      obtain ⟨_, -, h⟩ := exists_right_of_mem hbuilt hindex
      simp [h.isPrimaryKey]
    have hdeclared : List.Forall₂ (fun index declared =>
        index.declared? table = if !declared.fields.isEmpty then some declared else none)
        table.indexes (declaration.knownIndexes table.fields) := by
      refine hbuilt.imp fun index declared h => ?_
      rw [declared?_of_realizes hids h]
      cases declared.fields <;> rfl
    have hcovers : declaration.covers = fun index =>
        !index.fields.isEmpty && (index.fieldIds? table.fields).isSome := by
      funext index
      rw [isSome_fieldIds?, hnames, TableDeclaration.covers]
    rw [hothers, filterMap_eq_filter_of_forall₂ hdeclared, hcovers, ← List.filter_filter]
    rfl
  have hname : table.name = declaration.name := by rw [← hmade]; rfl
  have hcomment : table.comment = declaration.comment := by rw [← hmade]; rfl
  rw [Table.declared, hfields, hindexes, ContentHash.ofTable, hnames, hname, hcomment]
  rfl

/-- The tables that are made for declarations, each with stamps of its own. -/
def newTables [Coordinate κ] : Supply → List TableDeclaration → List (Table κ)
  | _, [] => []
  | supply, declaration :: rest =>
    newTable supply declaration :: newTables (supply.drop (tableStamps declaration)) rest

/-- In an empty model every declaration creates a table. -/
theorem declareAll_nil [Coordinate κ] (supply : Supply) (changes : TableChanges κ)
    (declarations : List TableDeclaration) :
    TableChanges.declareAll [] supply changes declarations =
      { changes with
        projected := changes.projected ++ newTables supply declarations
        created := changes.created ++ newTables supply declarations } := by
  induction declarations generalizing supply changes with
  | nil => simp [TableChanges.declareAll, newTables]
  | cons declaration rest ih =>
      have hnew : changes.declare [] supply declaration =
          { changes with
            projected := changes.projected ++ [newTable supply declaration]
            created := changes.created ++ [newTable supply declaration] } := by
        rcases changes.declare_cases [] supply declaration with ⟨-, heq⟩ | ⟨table, hsome, -⟩
        · exact heq
        · exact absurd (existingTable?_mem hsome) List.not_mem_nil
      rw [TableChanges.declareAll, ih, hnew, newTables]
      simp only [List.append_assoc, List.singleton_append]

theorem map_declared_newTables [Coordinate κ] {supply : Supply}
    {declarations : List TableDeclaration}
    (hunique : ∀ declaration ∈ declarations, ∀ field ∈ declaration.fields,
      field.primaryKey = true → field.unique = true)
    (hids : ∀ table ∈ (newTables supply declarations : List (Table κ)),
      (table.fields.map Field.id).Nodup) :
    (newTables supply declarations : List (Table κ)).map Table.declared =
      declarations.map TableDeclaration.kept := by
  induction declarations generalizing supply with
  | nil => rfl
  | cons declaration rest ih =>
      rw [newTables, List.forall_mem_cons] at hids
      rw [List.forall_mem_cons] at hunique
      rw [newTables, List.map_cons, List.map_cons, declared_newTable hunique.1 hids.1,
        ih hunique.2 hids.2]

/-! ## Relationships -/

/-- The names of an end that was found by its names. -/
theorem endNames?_of_resolveEnd? {tables : List (Table κ)} (hids : (tables.map Table.id).Nodup)
    (hfields : ∀ table ∈ tables, (table.fields.map Field.id).Nodup) {tableName fieldName : String}
    {endpoint : Endpoint} (h : resolveEnd? tables tableName fieldName = some endpoint) :
    ContentHash.endNames? tables endpoint = some (tableName, fieldName) := by
  rw [resolveEnd?, Option.bind_eq_bind, Option.bind_eq_some_iff] at h
  obtain ⟨table, htable, hrest⟩ := h
  rw [Option.bind_eq_bind, Option.bind_eq_some_iff] at hrest
  obtain ⟨field, hfield, hsame⟩ := hrest
  obtain rfl := Option.some.inj hsame
  have hmem := List.mem_of_find?_eq_some htable
  have hback : table.field? field.id = some field :=
    find?_key (hfields table hmem) (List.mem_of_find?_eq_some hfield)
  rw [ContentHash.endNames?, find?_key hids hmem]
  simp only [Option.bind_eq_bind, Option.bind_some, hback, key_of_find? htable]
  rw [key_of_find? hfield]
  rfl

theorem declared?_of_realizes_ends {tables : List (Table κ)} (hids : (tables.map Table.id).Nodup)
    (hfields : ∀ table ∈ tables, (table.fields.map Field.id).Nodup) {link : Relationship}
    {declaration : RelationshipDeclaration} (h : link.Realizes tables declaration) :
    link.declared? tables = some declaration.kept := by
  obtain ⟨hname, hends, hsource, htarget⟩ := h
  rw [resolveEnds?, Option.bind_eq_bind, Option.bind_eq_some_iff] at hends
  obtain ⟨source, hfirst, hrest⟩ := hends
  rw [Option.bind_eq_some_iff] at hrest
  obtain ⟨target, hsecond, hsame⟩ := hrest
  obtain ⟨rfl, rfl⟩ := Prod.mk.inj (Option.some.inj hsame)
  have hsourceNames := endNames?_of_resolveEnd? hids hfields hfirst
  have htargetNames := endNames?_of_resolveEnd? hids hfields hsecond
  simp only [Relationship.declared?, ContentHash.ofRelationship?, hsourceNames, htargetNames,
    Option.bind_eq_bind, Option.bind_some, hname, hsource, htarget]
  rfl

theorem isSome_resolveEnd? (tables : List (Table κ)) (tableName fieldName : String) :
    (resolveEnd? tables tableName fieldName).isSome =
      hasField (tables.map Table.declared) tableName fieldName := by
  rw [hasField, List.find?_map, Option.any_map, resolveEnd?]
  change _ = (tables.find? fun table => table.name == tableName).any _
  cases tables.find? fun table => table.name == tableName with
  | none => rfl
  | some table =>
      have hnames : table.declared.fieldNames = table.fields.map Field.name := by
        simp [Table.declared, TableDeclaration.fieldNames, Field.declared, Function.comp_def]
      rw [Option.any_some, hnames, ← isSome_find?_name]
      cases hfield : table.fields.find? fun field => field.name == fieldName with
      | none => simp [Table.fieldNamed?, hfield]
      | some field => simp [Table.fieldNamed?, hfield]

theorem isSome_resolveEnds? (tables : List (Table κ)) (declaration : RelationshipDeclaration) :
    (resolveEnds? tables declaration).isSome = declaration.joins (tables.map Table.declared) := by
  rw [RelationshipDeclaration.joins, ← isSome_resolveEnd?, ← isSome_resolveEnd?, resolveEnds?]
  cases resolveEnd? tables declaration.sourceTable declaration.sourceField with
  | none => rfl
  | some source =>
      cases resolveEnd? tables declaration.targetTable declaration.targetField <;> rfl

/-- In a model without relationships every declaration between known ends creates one. -/
theorem created_realizes (tables : List (Table κ)) (supply : Supply)
    (changes : RelationshipChanges) (declarations : List RelationshipDeclaration) (start : Nat) :
    ∃ links, (declarations.zipIdx start).foldl (fun changes (declaration, position) =>
        changes.declare tables [] (supply.get position) declaration) changes =
          { changes with created := changes.created ++ links } ∧
      List.Forall₂ (Relationship.Realizes tables) links
        (declarations.filter fun declaration => (resolveEnds? tables declaration).isSome) := by
  induction declarations generalizing changes start with
  | nil => exact ⟨[], by simp, .nil⟩
  | cons declaration rest ih =>
      obtain ⟨links, hlinks, hrealized⟩ :=
        ih (changes.declare tables [] (supply.get start) declaration) (start + 1)
      rw [List.zipIdx_cons, List.foldl_cons, hlinks]
      cases hends : resolveEnds? tables declaration with
      | none =>
          have hsame : changes.declare tables [] (supply.get start) declaration = changes := by
            rw [RelationshipChanges.declare, hends]
          rw [hsame, List.filter_cons_of_neg (by simp [hends])]
          exact ⟨links, rfl, hrealized⟩
      | some ends =>
          rcases changes.declare_cases tables [] (supply.get start) hends with
            ⟨-, link, hlink, heq⟩ | ⟨link, hsome, -⟩
          · rw [heq, List.filter_cons_of_pos (by simp [hends])]
            exact ⟨link :: links, by simp, .cons hlink hrealized⟩
          · exact absurd (existingRelationship?_mem hsome) List.not_mem_nil

/-! ## The whole model -/

/-- In an empty model there is nothing to find, to update or to delete. -/
theorem reconcile_nil [Coordinate κ] (supply : Supply) (schema : DeclaredSchema) :
    ∃ links, reconcile (κ := κ) supply schema [] [] =
        { createdTables := newTables supply schema.tables, createdRelationships := links } ∧
      List.Forall₂ (Relationship.Realizes (newTables (κ := κ) supply schema.tables)) links
        (schema.relationships.filter fun declaration =>
          (resolveEnds? (newTables (κ := κ) supply schema.tables) declaration).isSome) := by
  have htables : reconcileTables (κ := κ) supply ⟨schema.tables, []⟩ [] =
      { projected := newTables supply schema.tables
        created := newTables supply schema.tables } :=
    declareAll_nil supply { projected := [] } schema.tables
  obtain ⟨links, hlinks, hrealized⟩ := created_realizes (newTables (κ := κ) supply schema.tables)
    (supply.drop (tablesStamps schema.tables)) {} schema.relationships 0
  have hrelationships : reconcileRelationships (supply.drop (tablesStamps schema.tables))
      ⟨schema.relationships, []⟩ (newTables (κ := κ) supply schema.tables) [] =
        { created := links } := hlinks
  have hmatched : matchTables schema.tables ([] : List (Table κ)) = ⟨schema.tables, []⟩ := rfl
  have hjoined : matchRelationships schema.relationships ([] : List (Table κ)) [] =
      ⟨schema.relationships, []⟩ := rfl
  refine ⟨links, ?_, hrealized⟩
  simp only [reconcile, hmatched, hjoined, htables, surviving, List.filter_nil, hrelationships]

/-- The plan for a schema in an empty model leads to a model that states what is kept of it. -/
theorem reconcile_states [Coordinate κ] {schema : DeclaredSchema} (hread : schema.AsRead)
    {supply : Supply} (hdrawn : (supply.next (stamps schema)).Nodup) :
    let plan := reconcile (κ := κ) supply schema [] []
    schema.kept.StatedBy (plan.tablesAfter []) (plan.relationshipsAfter []) := by
  intro plan
  have hcreated : (plan.createdTables.map Table.id ++
      plan.createdRelationships.map Relationship.id).Sublist (supply.next (stamps schema)) :=
    created_sublist_next hread (by simp) (by simp) supply
  have hdistinct : ∀ table ∈ plan.createdTables, table.Distinct := by
    have hnone : ∀ {property : Table κ → Prop}, ∀ table ∈ ([] : List (Table κ)), property table :=
      fun _ hmem => absurd hmem List.not_mem_nil
    refine (reconcile_distinct hread (by simp) hnone [] hdrawn hnone ?_).2
    exact fun declaration _ table hsome => hnone table (existingTable?_mem hsome)
  obtain ⟨links, hplan, hrealized⟩ := reconcile_nil (κ := κ) supply schema
  simp only [plan, hplan] at hcreated hdistinct
  have hids := (List.nodup_append.mp (hdrawn.sublist hcreated)).1
  have hparts := fun table hmem => (hdistinct table hmem).fields
  generalize hmade : newTables (κ := κ) supply schema.tables = made
    at hplan hrealized hids hparts
  have htables : made.map Table.declared = schema.kept.tables := by
    rw [← hmade] at hparts ⊢
    exact map_declared_newTables hread.keysUnique hparts
  have hafter : plan.tablesAfter [] = made := by
    simp only [plan, hplan]
    rfl
  have hlinked : plan.relationshipsAfter [] = links := by
    simp only [plan, hplan]
    rfl
  rw [hafter, hlinked]
  refine ⟨htables, ?_⟩
  have hjoins : (fun declaration => (resolveEnds? made declaration).isSome) =
      RelationshipDeclaration.joins schema.tables := by
    funext declaration
    rw [isSome_resolveEnds?, htables, DeclaredSchema.kept]
    simp only [RelationshipDeclaration.joins, hasField_kept]
  rw [hjoins] at hrealized
  rw [DeclaredSchema.kept, List.map_map]
  apply map_eq_of_forall₂
  exact hrealized.imp fun link declaration h => declared?_of_realizes_ends hids hparts h

end Reconciliation

end SchemaDiagram
