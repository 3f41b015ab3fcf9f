import SchemaDiagram.Proofs.Reconciliation.Settled
import SchemaDiagram.Proofs.SchemaText.RoundTrip

/-!
# Unchanged text changes nothing

The declarations that are read back from the text of a model are realized by the tables and
relationships that were written, however the declarations are ordered.  So the text of a model
settles that model, and reconciling the two gives an empty plan.
-/

namespace SchemaDiagram

open Reconciliation

variable {κ : Type}

/-! ## Regular models -/

/-- A table whose fields and indexes schema text tells apart, with the indexes that back a primary
key in front. -/
structure Table.Regular (table : Table κ) : Prop where
  fieldNames : (table.fields.map Field.name).Nodup
  keysUnique : ∀ field ∈ table.fields, field.primaryKey = true → field.unique = true
  covers : ∀ index ∈ table.indexes, index.Covers table.fields
  keysFirst : table.indexes.Pairwise fun first second =>
    second.isPrimaryKey = true → first.isPrimaryKey = true
  indexNames : ((table.indexes.filter fun index => !index.isPrimaryKey).map Index.name).Nodup

/-- An end names a table and a field of it, and carries the schema of the table. -/
def Endpoint.StandsAt (tables : List (Table κ)) (endpoint : Endpoint) : Prop :=
  ∃ table ∈ tables, table.id = endpoint.tableId ∧ table.schema = endpoint.schema ∧
    endpoint.fieldId ∈ table.fields.map Field.id

/-- A model whose entities schema text tells apart. -/
structure Regular [BEq κ] (live : List (Table κ)) (linked : List Relationship) : Prop where
  tableIds : (live.map Table.id).Nodup
  tableNames : (live.map Table.name).Nodup
  linkNames : (linked.map Relationship.name).Nodup
  tables : ∀ table ∈ live, table.Regular
  placed : ∀ table ∈ live, table.Placed
  sources : ∀ link ∈ linked, link.source.StandsAt live
  targets : ∀ link ∈ linked, link.target.StandsAt live

/-! ## Tables -/

theorem Field.realizes_declared {field : Field}
    (h : field.primaryKey = true → field.unique = true) : field.Realizes field.declared := by
  refine ⟨rfl, rfl, rfl, ?_, rfl, rfl⟩
  rw [Field.declared]
  cases hkey : field.primaryKey with
  | false => rw [Bool.or_false]
  | true => rw [h hkey, Bool.true_or]

theorem Table.Regular.forall₂_fields {table : Table κ} (h : table.Regular) :
    List.Forall₂ Field.Realizes table.fields table.declared.fields := by
  refine List.forall₂_map_right_iff.mpr (List.forall₂_same.mpr ?_)
  exact fun field hfield => Field.realizes_declared (h.keysUnique field hfield)

/-- The names of known fields stand for the identifiers again. -/
theorem mapM_indexFields {table : Table κ} (hnames : (table.fields.map Field.name).Nodup)
    {ids : List Identifier} (hknown : ∀ id ∈ ids, id ∈ table.fields.map Field.id) :
    (ids.filterMap fun id => (table.field? id).map Field.name).mapM
      (fun name => (table.fields.find? fun field => field.name == name).map Field.id) =
        some ids := by
  refine mapM_eq_some_iff.mpr (forall₂_filterMap fun id hid => ?_)
  obtain ⟨field, hfield⟩ : ∃ field, table.field? id = some field := by
    obtain ⟨field, hmem, hsame⟩ := List.mem_map.mp (hknown id hid)
    rw [← Option.isSome_iff_exists, Table.field?, List.find?_isSome]
    exact ⟨field, hmem, beq_iff_eq.mpr hsame⟩
  have hsame : field.id = id := key_of_find? hfield
  have hfind := find?_key hnames (List.mem_of_find?_eq_some hfield)
  refine ⟨field.name, by rw [hfield]; rfl, ?_⟩
  rw [hfind, Option.map_some, hsame]

theorem Index.exists_declared {table : Table κ} (hnames : (table.fields.map Field.name).Nodup)
    {index : Index} (hcovers : index.Covers table.fields) (hkey : index.isPrimaryKey = false) :
    ∃ declaration, index.declared? table = some declaration ∧
      index.Realizes table.fields declaration := by
  have hids := mapM_indexFields hnames hcovers.known
  have hnonempty : (SchemaText.indexFields table index).isEmpty = false := by
    by_contra hempty
    rw [Bool.not_eq_false, List.isEmpty_iff, SchemaText.indexFields] at hempty
    rw [hempty] at hids
    exact hcovers.nonempty (Option.some.inj hids).symm
  refine ⟨⟨index.name, index.unique, SchemaText.indexFields table index⟩, ?_, rfl, rfl, hids, hkey⟩
  simp only [Index.declared?, hnonempty, Bool.false_eq_true, if_false]

theorem Table.Regular.forall₂_indexes {table : Table κ} (h : table.Regular) :
    List.Forall₂ (Index.Realizes table.fields)
      (table.indexes.filter fun index => !index.isPrimaryKey) table.declared.indexes := by
  apply forall₂_filterMap
  intro index hindex
  obtain ⟨hmem, hkey⟩ := List.mem_filter.mp hindex
  exact Index.exists_declared h.fieldNames (h.covers index hmem) (by simpa using hkey)

theorem Table.Regular.regular_declared {table : Table κ} (h : table.Regular) :
    table.declared.Regular := by
  refine ⟨?_, ?_, ?_⟩
  · rw [TableDeclaration.fieldNames, ← map_name_of_realizes h.forall₂_fields]
    exact h.fieldNames
  · intro declaration hdeclaration hkey
    obtain ⟨field, -, rfl⟩ := List.mem_map.mp hdeclaration
    exact Bool.or_eq_true_iff.mpr (.inr hkey)
  · rw [← map_indexName_of_realizes h.forall₂_indexes]
    exact h.indexNames

/-- Items that satisfy a predicate stand in front of the others if none follows another one. -/
theorem filter_append_filter_not_of_pairwise {α : Type} {p : α → Bool} {items : List α}
    (h : items.Pairwise fun first second => p second = true → p first = true) :
    items.filter p ++ items.filter (fun item => !p item) = items := by
  induction h with
  | nil => rfl
  | @cons first rest hfirst _ ih =>
      cases hp : p first with
      | true => simp [hp, ih]
      | false =>
          have hnone : rest.filter p = [] := by
            rw [List.filter_eq_nil_iff]
            intro item hitem hitem'
            exact absurd (hfirst item hitem hitem') (by simp [hp])
          rw [hnone, List.nil_append] at ih
          simp [hp, hnone, ih]

/-- A regular table is what it declares. -/
theorem Table.Regular.settled {table : Table κ} (h : table.Regular) :
    table.Settled table.declared := by
  have hknown : table.declared.knownIndexes table.fields = table.declared.indexes := by
    rw [TableDeclaration.knownIndexes, List.filter_eq_self]
    intro declaration hdeclaration
    obtain ⟨index, -, hrealizes⟩ := exists_left_of_mem h.forall₂_indexes hdeclaration
    exact Option.isSome_of_eq_some hrealizes.fieldIds
  refine ⟨⟨rfl, rfl, h.forall₂_fields, fun _ => ?_⟩, ?_, fun _ => ?_⟩
  · rw [hknown]
    exact h.forall₂_indexes
  · exact fun index hindex _ => h.covers index hindex
  · exact filter_append_filter_not_of_pairwise h.keysFirst

/-! ## Relationships -/

/-- An end is named after the table and the field that it stands at. -/
theorem Endpoint.StandsAt.exists_endNames {live : List (Table κ)} {endpoint : Endpoint}
    (h : endpoint.StandsAt live) (hids : (live.map Table.id).Nodup) :
    ∃ table ∈ live, ∃ field ∈ table.fields, table.id = endpoint.tableId ∧
      table.schema = endpoint.schema ∧ field.id = endpoint.fieldId ∧
      ContentHash.endNames? live endpoint = some (table.name, field.name) := by
  obtain ⟨table, htable, hid, hschema, hfieldId⟩ := h
  have hfindId := find?_key hids htable
  rw [hid] at hfindId
  obtain ⟨field, hfield⟩ : ∃ field, table.field? endpoint.fieldId = some field := by
    obtain ⟨field, hmem, hsame⟩ := List.mem_map.mp hfieldId
    rw [← Option.isSome_iff_exists, Table.field?, List.find?_isSome]
    exact ⟨field, hmem, beq_iff_eq.mpr hsame⟩
  refine ⟨table, htable, field, List.mem_of_find?_eq_some hfield, hid, hschema,
    key_of_find? hfield, ?_⟩
  rw [ContentHash.endNames?, hfindId]
  simp [hfield]

/-- A relationship whose ends have names is declared between them. -/
theorem Relationship.exists_declared_of_endNames {live : List (Table κ)} {link : Relationship}
    {source target : String × String}
    (hsource : ContentHash.endNames? live link.source = some source)
    (htarget : ContentHash.endNames? live link.target = some target) :
    ∃ declaration, link.declared? live = some declaration ∧ declaration.existingId = none ∧
      declaration.name = link.name ∧
      declaration.sourceCardinality = link.sourceCardinality ∧
      declaration.targetCardinality = link.targetCardinality ∧
      resolveEnds? live declaration = (resolveEnd? live source.1 source.2).bind fun sourceEnd =>
        (resolveEnd? live target.1 target.2).map fun targetEnd => (sourceEnd, targetEnd) := by
  have hhash : ContentHash.ofRelationship? link live =
      some (ContentHash.ofEnds source.1 source.2 target.1 target.2) := by
    rw [ContentHash.ofRelationship?, hsource, htarget]
    rfl
  refine ⟨_, by rw [Relationship.declared?, hsource, htarget, hhash]; rfl, rfl, rfl, rfl, rfl, ?_⟩
  rw [resolveEnds?]
  cases resolveEnd? live source.1 source.2 with
  | none => rfl
  | some sourceEnd => cases resolveEnd? live target.1 target.2 <;> rfl

/-- The names of an end lead back to the end. -/
theorem Regular.exists_endNames [BEq κ] {live : List (Table κ)} {linked : List Relationship}
    (h : Regular live linked) {endpoint : Endpoint} (hstands : endpoint.StandsAt live) :
    ∃ names, ContentHash.endNames? live endpoint = some names ∧
      resolveEnd? live names.1 names.2 = some endpoint := by
  obtain ⟨table, htable, field, hfield, hid, hschema, hsame, hnames⟩ :=
    hstands.exists_endNames h.tableIds
  have hfindName := find?_key h.tableNames htable
  have hnamed : table.fieldNamed? field.name = some field :=
    find?_key (h.tables table htable).fieldNames hfield
  refine ⟨(table.name, field.name), hnames, ?_⟩
  rw [resolveEnd?, hfindName]
  simp [hnamed, hsame, hid, hschema]

theorem Regular.exists_declared [BEq κ] {live : List (Table κ)} {linked : List Relationship}
    (h : Regular live linked) {link : Relationship} (hlink : link ∈ linked) :
    ∃ declaration, link.declared? live = some declaration ∧ declaration.existingId = none ∧
      link.Realizes live declaration := by
  obtain ⟨source, hsource, hresolveSource⟩ := h.exists_endNames (h.sources link hlink)
  obtain ⟨target, htarget, hresolveTarget⟩ := h.exists_endNames (h.targets link hlink)
  obtain ⟨declaration, hdeclared, hnew, hname, hsourceCardinality, htargetCardinality, hends⟩ :=
    Relationship.exists_declared_of_endNames hsource htarget
  refine ⟨declaration, hdeclared, hnew, hname.symm, ?_, hsourceCardinality.symm,
    htargetCardinality.symm⟩
  rw [hends, hresolveSource, hresolveTarget]
  rfl

/-! ## The text of a model -/

/-- A regular model is settled by its own declarations in any order. -/
theorem Regular.settles [BEq κ] {live : List (Table κ)} {linked : List Relationship}
    (h : Regular live linked) {schema : DeclaredSchema}
    (htables : schema.tables.Perm (live.map Table.declared))
    (hlinks : schema.relationships.Perm (linked.filterMap (Relationship.declared? live))) :
    schema.Settles live linked := by
  have htable : ∀ declaration ∈ schema.tables, ∃ table ∈ live, table.declared = declaration :=
    fun declaration hmem => List.mem_map.mp (htables.subset hmem)
  have hlink : ∀ declaration ∈ schema.relationships, ∃ link ∈ linked,
      link.declared? live = some declaration :=
    fun declaration hmem => List.mem_filterMap.mp (hlinks.subset hmem)
  constructor
  · intro declaration hmem
    obtain ⟨table, -, rfl⟩ := htable declaration hmem
    rfl
  · intro declaration hmem
    obtain ⟨link, hmemLink, hsome⟩ := hlink declaration hmem
    obtain ⟨other, hother, hnew, -⟩ := h.exists_declared hmemLink
    rwa [← Option.some.inj (hother.symm.trans hsome)]
  · intro declaration hmem
    obtain ⟨table, hmemTable, rfl⟩ := htable declaration hmem
    exact (h.tables table hmemTable).regular_declared
  · exact h.tableNames
  · exact h.linkNames
  · intro declaration hmem
    obtain ⟨table, hmemTable, rfl⟩ := htable declaration hmem
    exact ⟨table, hmemTable, (h.tables table hmemTable).settled⟩
  · intro declaration hmem
    obtain ⟨link, hmemLink, hsome⟩ := hlink declaration hmem
    obtain ⟨other, hother, -, hrealizes⟩ := h.exists_declared hmemLink
    obtain rfl := Option.some.inj (hother.symm.trans hsome)
    exact ⟨link, hmemLink, hrealizes⟩
  · intro table hmem
    exact ⟨table.declared, htables.symm.subset (List.mem_map_of_mem hmem), rfl⟩
  · intro link hmem
    obtain ⟨declaration, hsome, -, hrealizes⟩ := h.exists_declared hmem
    exact ⟨declaration, hlinks.symm.subset (List.mem_filterMap.mpr ⟨link, hmem, hsome⟩),
      hrealizes.name.symm⟩

namespace Reconciliation

/-- The text of a model changes nothing in the model, in whatever order its declarations are
taken. -/
theorem reconcile_parse_generate [Coordinate κ] (dialect : Dialect) (tables : List (Table κ))
    (relationships : List Relationship) (supply : Supply) (schema : DeclaredSchema)
    (hwritable : SchemaText.Writable dialect tables relationships)
    (hregular : Regular tables relationships)
    (htables : schema.tables.Perm
      (SchemaText.parse dialect (SchemaText.generate tables relationships)).tables)
    (hrelationships : schema.relationships.Perm
      (SchemaText.parse dialect (SchemaText.generate tables relationships)).relationships) :
    reconcile supply schema tables relationships = {} := by
  rw [SchemaText.tables_parse_generate hwritable] at htables
  rw [SchemaText.relationships_parse_generate hwritable] at hrelationships
  have hsettles := hregular.settles htables hrelationships
  exact (reconcile_eq_empty_iff hsettles supply).mpr hregular.placed

/-! ## Two tables with notes -/

/-- A table with a key, whose note and whose second index hold marks of schema text. -/
def notedTable : Table Float :=
  { Table.new ⟨⟨3⟩, ⟨0, 0⟩, ""⟩ "orders" 0 0 with
    comment := some "Rel \\ Indexes \x7b"
    fields := [SchemaText.awkwardKey, SchemaText.awkwardTotal]
    indexes := [{ Index.new ⟨⟨6⟩, ⟨0, 0⟩, ""⟩ "key" [⟨1⟩] with isPrimaryKey := true },
      Index.new ⟨⟨4⟩, ⟨0, 0⟩, ""⟩ "by 'total' \x7d" [⟨2⟩, ⟨1⟩]] }

/-- A table in a schema of its own. -/
def schemaTable : Table Float :=
  { Table.new ⟨⟨8⟩, ⟨0, 0⟩, ""⟩ "users" 40 (-2.5) with
    schema := some "shop"
    fields := [SchemaText.awkwardKey] }

/-- A relationship between the two tables. -/
def notedLink : Relationship :=
  Relationship.new ⟨⟨5⟩, ⟨0, 0⟩, ""⟩ "Rel" (Endpoint.new ⟨3⟩ ⟨2⟩) ⟨⟨8⟩, ⟨1⟩, some "shop"⟩

/-- Stamps that count upwards. -/
def countingSupply : Supply :=
  ⟨fun n => ⟨Identifier.ofNat (n + 100), ⟨n, 0⟩, ""⟩, 0⟩

theorem writable_noted :
    SchemaText.Writable .generic [notedTable, schemaTable] [notedLink] := by
  have hkey : SchemaText.awkwardKey.Writable .generic :=
    ⟨by decide, DataType.writable_of_slashless (by decide +kernel) (by decide) (by decide)⟩
  have htotal : SchemaText.awkwardTotal.Writable .generic :=
    ⟨by decide, DataType.writable_of_slashless (by decide +kernel) (by decide) (by decide)⟩
  constructor
  · rw [List.forall_mem_cons, List.forall_mem_singleton]
    refine ⟨⟨by decide, ?_⟩, ⟨by decide, ?_⟩⟩
    · exact List.forall_mem_cons.mpr ⟨hkey, List.forall_mem_singleton.mpr htotal⟩
    · exact List.forall_mem_singleton.mpr hkey
  · exact List.forall_mem_singleton.mpr (by decide)

theorem regular_noted : Regular [notedTable, schemaTable] [notedLink] := by
  refine ⟨by decide, by decide, by decide, ?_, ?_, ?_, ?_⟩
  · rw [List.forall_mem_cons, List.forall_mem_singleton]
    refine ⟨⟨by decide, by decide, ?_, by decide, by decide⟩,
      ⟨by decide, by decide, ?_, by decide, by decide⟩⟩
    · intro index hindex
      rcases List.mem_cons.mp hindex with rfl | hindex
      · exact ⟨by decide, by decide⟩
      · obtain rfl := List.mem_singleton.mp hindex
        exact ⟨by decide, by decide⟩
    · exact fun index hindex => absurd hindex List.not_mem_nil
  · rw [List.forall_mem_cons, List.forall_mem_singleton]
    exact ⟨⟨by decide +kernel, by decide +kernel⟩, ⟨by decide +kernel, by decide +kernel⟩⟩
  · exact List.forall_mem_singleton.mpr ⟨notedTable, List.mem_cons_self, rfl, rfl, by decide⟩
  · exact List.forall_mem_singleton.mpr
      ⟨schemaTable, List.mem_cons_of_mem _ List.mem_cons_self, rfl, rfl, by decide⟩

theorem reconcile_reversed :
    reconcile countingSupply
      ⟨(SchemaText.parse .generic
          (SchemaText.generate [notedTable, schemaTable] [notedLink])).tables.reverse,
        (SchemaText.parse .generic
          (SchemaText.generate [notedTable, schemaTable] [notedLink])).relationships.reverse⟩
      [notedTable, schemaTable] [notedLink] = {} :=
  reconcile_parse_generate .generic [notedTable, schemaTable] [notedLink] countingSupply
    ⟨_, _⟩ writable_noted regular_noted (List.reverse_perm _) (List.reverse_perm _)

end Reconciliation

end SchemaDiagram
