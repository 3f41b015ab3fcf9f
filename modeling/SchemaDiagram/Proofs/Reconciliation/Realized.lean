import SchemaDiagram.Proofs.Keyed
import SchemaDiagram.Reconciliation

/-!
# Entities that are what was declared

An entity realizes a declaration if it says the same, whatever its identifiers are.  A field or an
index that realizes its declaration is built from it again without a change, and so is a table if
its indexes cover fields of its own and those that back a primary key come first.
-/

namespace SchemaDiagram

open Reconciliation

variable {κ : Type}

/-! ## What declarations say -/

/-- A field is what a declaration says. -/
structure Field.Realizes (field : Field) (declaration : FieldDeclaration) : Prop where
  name : field.name = declaration.name
  dataType : field.dataType = declaration.dataType
  nullable : field.nullable = declaration.nullable
  unique : field.unique = declaration.unique
  primaryKey : field.primaryKey = declaration.primaryKey
  comment : field.comment = declaration.comment

/-- The identifiers of the fields that a declared index names; nothing if a name is unknown. -/
def IndexDeclaration.fieldIds? (fields : List Field) (declaration : IndexDeclaration) :
    Option (List Identifier) :=
  declaration.fields.mapM fun name =>
    (fields.find? fun field => field.name == name).map Field.id

/-- An index over some fields is what a declaration says. -/
structure Index.Realizes (fields : List Field) (index : Index) (declaration : IndexDeclaration) :
    Prop where
  name : index.name = declaration.name
  unique : index.unique = declaration.unique
  fieldIds : declaration.fieldIds? fields = some index.fieldIds
  isPrimaryKey : index.isPrimaryKey = false

/-- The declared indexes whose fields are all known. -/
def TableDeclaration.knownIndexes (fields : List Field) (declaration : TableDeclaration) :
    List IndexDeclaration :=
  declaration.indexes.filter fun index => (index.fieldIds? fields).isSome

/-- A table is what a declaration says: name, comment and fields, and if indexes are declared then
the known ones of these are all indexes of the table that back no primary key. -/
structure Table.Realizes (table : Table κ) (declaration : TableDeclaration) : Prop where
  name : table.name = declaration.name
  comment : table.comment = declaration.comment
  fields : List.Forall₂ Field.Realizes table.fields declaration.fields
  indexes : declaration.indexes ≠ [] →
    List.Forall₂ (Index.Realizes table.fields)
      (table.indexes.filter fun index => !index.isPrimaryKey)
      (declaration.knownIndexes table.fields)

/-- A relationship over some tables is what a declaration says. -/
structure Relationship.Realizes (tables : List (Table κ)) (relationship : Relationship)
    (declaration : RelationshipDeclaration) : Prop where
  name : relationship.name = declaration.name
  ends : resolveEnds? tables declaration = some (relationship.source, relationship.target)
  sourceCardinality : relationship.sourceCardinality = declaration.sourceCardinality
  targetCardinality : relationship.targetCardinality = declaration.targetCardinality

/-- A declared table without two fields or two indexes of the same name, whose keys are unique. -/
structure TableDeclaration.Regular (declaration : TableDeclaration) : Prop where
  fieldNames : declaration.fieldNames.Nodup
  keysUnique : ∀ field ∈ declaration.fields, field.primaryKey = true → field.unique = true
  indexNames : (declaration.indexes.map IndexDeclaration.name).Nodup

/-- An index covers some field, and only given ones. -/
structure Index.Covers (index : Index) (fields : List Field) : Prop where
  nonempty : index.fieldIds ≠ []
  known : ∀ id ∈ index.fieldIds, id ∈ fields.map Field.id

/-- A table that realizes a declaration and holds no index that rebuilding would drop or move. -/
structure Table.Settled (table : Table κ) (declaration : TableDeclaration) : Prop
    extends table.Realizes declaration where
  covers : ∀ index ∈ table.indexes, declaration.indexes = [] ∨ index.isPrimaryKey = true →
    index.Covers table.fields
  keysFirst : declaration.indexes ≠ [] →
    table.indexes.filter Index.isPrimaryKey ++
      table.indexes.filter (fun index => !index.isPrimaryKey) = table.indexes

/-! ## Rebuilding a table -/

theorem map_name_of_realizes {fields : List Field} {declarations : List FieldDeclaration}
    (h : List.Forall₂ Field.Realizes fields declarations) :
    fields.map Field.name = declarations.map FieldDeclaration.name :=
  map_eq_of_forall₂ (h.imp fun _ _ hrealizes => hrealizes.name)

theorem Field.Realizes.buildField {field : Field} {declaration : FieldDeclaration}
    (h : field.Realizes declaration)
    (hunique : declaration.primaryKey = true → declaration.unique = true) (stamp : Stamp) :
    buildField stamp (some field) declaration = field := by
  cases declaration
  obtain ⟨rfl, rfl, rfl, rfl, rfl, rfl⟩ := h
  have hflags : (field.unique || field.primaryKey) = field.unique := by
    cases hkey : field.primaryKey with
    | false => rw [Bool.or_false]
    | true =>
        rw [Bool.or_true]
        exact (hunique hkey).symm
  simp [Reconciliation.buildField, hflags]

/-- Fields that are what was declared are built again as they are. -/
theorem buildFields_of_realizes {fields : List Field} {declarations : List FieldDeclaration}
    (h : List.Forall₂ Field.Realizes fields declarations)
    (hnames : (declarations.map FieldDeclaration.name).Nodup)
    (hunique : ∀ declaration ∈ declarations,
      declaration.primaryKey = true → declaration.unique = true) (supply : Supply) :
    buildFields supply fields declarations = fields := by
  have hnodup : (fields.map Field.name).Nodup := by rwa [map_name_of_realizes h]
  apply zipIdx_map_of_forall₂
  refine List.Forall₂.imp ?_ (forall₂_mem h)
  rintro field declaration ⟨hfield, hdeclaration, hrealizes⟩ position
  have hfind := find?_key hnodup hfield
  rw [hrealizes.name] at hfind
  dsimp only
  rw [hfind]
  exact hrealizes.buildField (hunique declaration hdeclaration) _

theorem buildIndex?_eq (stamp : Stamp) (current : List Index) (fields : List Field)
    (declaration : IndexDeclaration) :
    buildIndex? stamp current fields declaration =
      (declaration.fieldIds? fields).map fun fieldIds =>
        let existing := current.find? fun index =>
          !index.isPrimaryKey && index.name == declaration.name
        { id := (existing.map Index.id).getD stamp.id
          name := declaration.name
          unique := declaration.unique
          fieldIds := fieldIds
          isPrimaryKey := false
          createdAt := (existing.map Index.createdAt).getD stamp.time } := by
  rw [buildIndex?, IndexDeclaration.fieldIds?]
  cases declaration.fields.mapM fun name =>
    (fields.find? fun field => field.name == name).map Field.id <;> rfl

theorem Index.Realizes.buildIndex? {fields : List Field} {index : Index}
    {declaration : IndexDeclaration} (h : index.Realizes fields declaration) {current : List Index}
    (hfind : (current.find? fun other =>
      !other.isPrimaryKey && other.name == declaration.name) = some index) (stamp : Stamp) :
    buildIndex? stamp current fields declaration = some index := by
  rw [buildIndex?_eq, h.fieldIds, hfind, ← h.name, ← h.unique]
  simp [← h.isPrimaryKey]

theorem map_indexName_of_realizes {fields : List Field} {indexes : List Index}
    {declarations : List IndexDeclaration}
    (h : List.Forall₂ (Index.Realizes fields) indexes declarations) :
    indexes.map Index.name = declarations.map IndexDeclaration.name :=
  map_eq_of_forall₂ (h.imp fun _ _ hrealizes => hrealizes.name)

/-- Indexes that are what was declared are built again as they are. -/
theorem built_of_realizes {table : Table κ} {declaration : TableDeclaration}
    (h : List.Forall₂ (Index.Realizes table.fields)
      (table.indexes.filter fun index => !index.isPrimaryKey)
      (declaration.knownIndexes table.fields))
    (hnames : (declaration.indexes.map IndexDeclaration.name).Nodup) (supply : Supply) :
    (declaration.indexes.zipIdx.filterMap fun (index, position) =>
        buildIndex? (supply.get position) table.indexes table.fields index) =
      table.indexes.filter fun index => !index.isPrimaryKey := by
  have hnodup : ((table.indexes.filter fun index => !index.isPrimaryKey).map Index.name).Nodup := by
    rw [map_indexName_of_realizes h]
    exact hnames.sublist (List.filter_sublist.map _)
  refine zipIdx_filterMap_of_forall₂ (p := fun index => (index.fieldIds? table.fields).isSome)
    ?_ ?_ 0
  · intro index _ hunknown position
    dsimp only
    have hnone : index.fieldIds? table.fields = none := by simpa using hunknown
    rw [buildIndex?_eq, hnone]
    rfl
  · refine List.Forall₂.imp ?_ (forall₂_mem h)
    rintro index declared ⟨hindex, -, hrealizes⟩ position
    have hfind := find?_key hnodup hindex
    simp only [List.find?_filter, hrealizes.name, Bool.decide_and, Bool.decide_eq_true] at hfind
    exact hrealizes.buildIndex? hfind _

theorem Index.Covers.any_id {index : Index} {fields : List Field} (h : index.Covers fields) :
    ∀ id ∈ index.fieldIds, (fields.any fun field => field.id == id) = true := by
  intro id hid
  obtain ⟨field, hfield, rfl⟩ := List.mem_map.mp (h.known id hid)
  exact List.any_eq_true.mpr ⟨field, hfield, beq_self_eq_true _⟩

/-- Indexes over known fields are not touched. -/
theorem pruneIndexes_of_covers {indexes : List Index} {fields : List Field}
    (h : ∀ index ∈ indexes, index.Covers fields) : pruneIndexes indexes fields = indexes := by
  induction indexes with
  | nil => rfl
  | cons index rest ih =>
      have hcovers := h index List.mem_cons_self
      have hfilter : (index.fieldIds.filter fun id => fields.any fun field => field.id == id) =
          index.fieldIds := List.filter_eq_self.mpr hcovers.any_id
      have hempty : index.fieldIds.isEmpty = false := by simpa using hcovers.nonempty
      have hrest := ih fun other hother => h other (List.mem_cons_of_mem _ hother)
      rw [pruneIndexes] at hrest ⊢
      rw [List.filterMap_cons_some (b := index) ?_, hrest]
      simp only [hfilter, hempty, Bool.false_eq_true, if_false]

/-- A settled table is rebuilt as it is. -/
theorem Table.Settled.apply_tablePatch {table : Table κ} {declaration : TableDeclaration}
    (h : table.Settled declaration) (hregular : declaration.Regular) (supply : Supply) :
    table.apply (tablePatch supply declaration table) = table := by
  have hfields : buildFields supply table.fields declaration.fields = table.fields :=
    buildFields_of_realizes h.fields hregular.fieldNames hregular.keysUnique supply
  have hindexes : (tablePatch supply declaration table).indexes = some table.indexes := by
    simp only [tablePatch, hfields]
    split
    · next hnone =>
        rw [pruneIndexes_of_covers]
        exact fun index hindex => h.covers index hindex (.inl (List.isEmpty_iff.mp hnone))
    · next hdeclared =>
        have hne : declaration.indexes ≠ [] := by simpa using hdeclared
        have hkeys : pruneIndexes (table.indexes.filter Index.isPrimaryKey) table.fields =
            table.indexes.filter Index.isPrimaryKey := by
          apply pruneIndexes_of_covers
          intro index hindex
          obtain ⟨hmem, hkey⟩ := List.mem_filter.mp hindex
          exact h.covers index hmem (.inr hkey)
        rw [buildIndexes, built_of_realizes (h.indexes hne) hregular.indexNames, hkeys,
          h.keysFirst hne]
  have hpatch : tablePatch supply declaration table =
      { name := some table.name
        fields := some table.fields
        indexes := some table.indexes
        comment := some table.comment } := by
    rw [← hindexes, h.name, h.comment]
    simp only [tablePatch, hfields]
  rw [hpatch]
  rfl

/-- A relationship that is what was declared is not changed. -/
theorem Relationship.Realizes.apply_relationshipPatch {live : List (Table κ)}
    {link : Relationship} {declaration : RelationshipDeclaration}
    (h : link.Realizes live declaration) :
    link.apply (relationshipPatch declaration link.source link.target) = link := by
  simp only [Relationship.apply, relationshipPatch, Option.getD_some, ← h.name,
    ← h.sourceCardinality, ← h.targetCardinality]

end SchemaDiagram
