import SchemaDiagram.Coordinate
import SchemaDiagram.EditDistance
import SchemaDiagram.Plan
import SchemaDiagram.SchemaText.Declaration

/-!
# Reconciliation

Comparing a declared schema with the model yields the plan that makes the model converge on the
schema.  A declaration stands for the entity it was recognised as a rename of, or else for the
entity of the same name, or else it is new.  Renames are only looked for when as many entities are
declared as there are; any other count means that some were added or removed, and nothing is
guessed.
-/

namespace SchemaDiagram.Reconciliation

variable {κ : Type} {δ : Type}

/-! ## Recognising renames -/

/-- What the search for renames has to know about a declaration. -/
class Declared (δ : Type) where
  name : δ → String
  contentHash : δ → Int32
  existingId : δ → Option Identifier
  /-- The declaration with an entity attached to it. -/
  attach : Identifier → δ → δ

instance : Declared TableDeclaration where
  name := TableDeclaration.name
  contentHash := TableDeclaration.contentHash
  existingId := TableDeclaration.existingId
  attach id declaration := { declaration with existingId := some id }

instance : Declared RelationshipDeclaration where
  name := RelationshipDeclaration.name
  contentHash := RelationshipDeclaration.contentHash
  existingId := RelationshipDeclaration.existingId
  attach id declaration := { declaration with existingId := some id }

/-- What the search for renames has to know about an entity; without a hash it is never
recognised. -/
structure Entity where
  id : Identifier
  name : String
  contentHash : Option Int32

/-- Whether an entity may have been renamed to a declaration: nothing is attached to it yet, the
contents agree, and no entity has its name. -/
def isCandidate [Declared δ] (entities : List Entity) (entity : Entity) (declaration : δ) : Bool :=
  (Declared.existingId declaration).isNone &&
    entity.contentHash == some (Declared.contentHash declaration) &&
    !(entities.any fun other => other.name == Declared.name declaration)

/-- The positions of the candidates for a rename with the edit distances of their names. -/
def candidates [Declared δ] (entities : List Entity) (entity : Entity) (declarations : List δ) :
    List (Nat × Nat) :=
  declarations.zipIdx.filterMap fun (declaration, position) =>
    if isCandidate entities entity declaration then
      some (position, editDistance entity.name.toList (Declared.name declaration).toList)
    else none

/-- The position with the least distance, the first one of several. -/
def closest? : List (Nat × Nat) → Option Nat
  | [] => none
  | first :: rest =>
    some (rest.foldl (fun best next => if next.2 < best.2 then next else best) first).1

/-- The declarations with renamed entities attached to them, and the entities that are gone. -/
structure Matching (δ : Type) where
  declarations : List δ
  gone : List Identifier

/-- Look for one entity among the declarations. -/
def Matching.settle [Declared δ] (entities : List Entity) (guess : Bool) (state : Matching δ)
    (entity : Entity) : Matching δ :=
  if state.declarations.any fun declaration => Declared.name declaration == entity.name then state
  else
    let rescued :=
      if guess then closest? (candidates entities entity state.declarations) else none
    match rescued with
    | some position =>
      { state with
        declarations := state.declarations.modify position (Declared.attach entity.id) }
    | none => { state with gone := state.gone ++ [entity.id] }

/-- Look for all entities among the declarations, in order. -/
def matchEntities [Declared δ] (entities : List Entity) (declarations : List δ) : Matching δ :=
  entities.foldl (Matching.settle entities (declarations.length == entities.length))
    ⟨declarations, []⟩

/-! ## Tables -/

/-- The field that a declaration stands for; a field of the same name lends its identity. -/
def buildField (stamp : Stamp) (existing : Option Field) (declaration : FieldDeclaration) : Field
    where
  id := (existing.map Field.id).getD stamp.id
  name := declaration.name
  dataType := declaration.dataType
  nullable := declaration.nullable
  unique := declaration.unique || declaration.primaryKey
  primaryKey := declaration.primaryKey
  comment := declaration.comment
  createdAt := (existing.map Field.createdAt).getD stamp.time

/-- The fields that declarations stand for, given the fields so far. -/
def buildFields (supply : Supply) (current : List Field) (declarations : List FieldDeclaration) :
    List Field :=
  declarations.zipIdx.map fun (declaration, position) =>
    buildField (supply.get position)
      (current.find? fun field => field.name == declaration.name) declaration

/-- Indexes without the fields that are gone; an index that loses all of its fields is dropped. -/
def pruneIndexes (indexes : List Index) (fields : List Field) : List Index :=
  indexes.filterMap fun index =>
    let fieldIds := index.fieldIds.filter fun id => fields.any fun field => field.id == id
    if fieldIds.isEmpty then none else some { index with fieldIds := fieldIds }

/-- The index that a declaration stands for; nothing if it names an unknown field.  An index of the
same name that backs no primary key lends its identity. -/
def buildIndex? (stamp : Stamp) (current : List Index) (fields : List Field)
    (declaration : IndexDeclaration) : Option Index := do
  let fieldIds ← declaration.fields.mapM fun name =>
    (fields.find? fun field => field.name == name).map Field.id
  let existing := current.find? fun index => !index.isPrimaryKey && index.name == declaration.name
  return {
    id := (existing.map Index.id).getD stamp.id
    name := declaration.name
    unique := declaration.unique
    fieldIds := fieldIds
    isPrimaryKey := false
    createdAt := (existing.map Index.createdAt).getD stamp.time }

/-- The indexes that declarations stand for, behind the ones that back a primary key. -/
def buildIndexes (supply : Supply) (current : List Index) (fields : List Field)
    (declarations : List IndexDeclaration) : List Index :=
  pruneIndexes (current.filter Index.isPrimaryKey) fields ++
    declarations.zipIdx.filterMap fun (declaration, position) =>
      buildIndex? (supply.get position) current fields declaration

/-- The update that makes a table what a declaration says: name, fields, indexes and comment change,
all else is kept.  A declaration without indexes leaves the present ones alone. -/
def tablePatch (supply : Supply) (declaration : TableDeclaration) (current : Table κ) :
    TablePatch κ :=
  let fields := buildFields supply current.fields declaration.fields
  let indexes :=
    if declaration.indexes.isEmpty then pruneIndexes current.indexes fields
    else
      buildIndexes (supply.drop declaration.fields.length) current.indexes fields
        declaration.indexes
  { name := some declaration.name
    fields := some fields
    indexes := some indexes
    comment := some declaration.comment }

/-- The stamps that building a declared table takes: one for the table and one for each of its
fields and indexes. -/
def tableStamps (declaration : TableDeclaration) : Nat :=
  1 + declaration.fields.length + declaration.indexes.length

/-- The table that a new declaration stands for, at the origin. -/
def newTable [Coordinate κ] (supply : Supply) (declaration : TableDeclaration) : Table κ :=
  let fields := buildFields (supply.drop 1) [] declaration.fields
  { Table.new (supply.get 0) declaration.name Coordinate.zero Coordinate.zero with
    fields := fields
    indexes :=
      buildIndexes (supply.drop (1 + declaration.fields.length)) [] fields declaration.indexes
    comment := declaration.comment }

/-- The tables as they will be, and the changes that lead there. -/
structure TableChanges (κ : Type) where
  projected : List (Table κ)
  updated : List (Identifier × TablePatch κ) := []
  created : List (Table κ) := []

/-- The table that a declaration stands for, if there is one. -/
def existingTable? (live : List (Table κ)) (declaration : TableDeclaration) : Option (Table κ) :=
  match declaration.existingId with
  | some id => live.find? fun table => table.id == id
  | none => live.find? fun table => table.name == declaration.name

/-- Take one declaration into account.  An update that would change nothing is left out. -/
def TableChanges.declare [Coordinate κ] (live : List (Table κ)) (supply : Supply)
    (changes : TableChanges κ) (declaration : TableDeclaration) : TableChanges κ :=
  match existingTable? live declaration with
  | some current =>
    let patch := tablePatch (supply.drop 1) declaration current
    let updated := current.apply patch
    if updated == current then changes
    else
      { changes with
        projected :=
          updateFirst (fun table => table.id == current.id) (fun _ => updated) changes.projected
        updated := changes.updated ++ [(current.id, patch)] }
  | none =>
    let table := newTable supply declaration
    { changes with
      projected := changes.projected ++ [table]
      created := changes.created ++ [table] }

/-- Take declarations into account in order, each with stamps of its own. -/
def TableChanges.declareAll [Coordinate κ] (live : List (Table κ)) :
    Supply → TableChanges κ → List TableDeclaration → TableChanges κ
  | _, changes, [] => changes
  | supply, changes, declaration :: rest =>
    TableChanges.declareAll live (supply.drop (tableStamps declaration))
      (changes.declare live supply declaration) rest

/-- What the search for renames knows about a table. -/
def tableEntity (table : Table κ) : Entity :=
  ⟨table.id, table.name, some (ContentHash.ofTable table)⟩

/-- The declared tables compared with the live ones. -/
def matchTables (declarations : List TableDeclaration) (live : List (Table κ)) :
    Matching TableDeclaration :=
  matchEntities (live.map tableEntity) declarations

/-- The changes of tables that a matching leads to. -/
def reconcileTables [Coordinate κ] (supply : Supply) (matching : Matching TableDeclaration)
    (live : List (Table κ)) : TableChanges κ :=
  TableChanges.declareAll live supply
    { projected := live.filter fun table => !matching.gone.contains table.id }
    matching.declarations

/-! ## Relationships -/

/-- The end that a table name and a field name stand for. -/
def resolveEnd? (tables : List (Table κ)) (tableName fieldName : String) : Option Endpoint := do
  let table ← tables.find? fun table => table.name == tableName
  let field ← table.fieldNamed? fieldName
  return ⟨table.id, field.id, table.schema⟩

/-- Both ends of a declared relationship. -/
def resolveEnds? (tables : List (Table κ)) (declaration : RelationshipDeclaration) :
    Option (Endpoint × Endpoint) := do
  let source ← resolveEnd? tables declaration.sourceTable declaration.sourceField
  let target ← resolveEnd? tables declaration.targetTable declaration.targetField
  return (source, target)

structure RelationshipChanges where
  updated : List (Identifier × RelationshipPatch) := []
  created : List Relationship := []

/-- The relationship that a declaration stands for, if there is one. -/
def existingRelationship? (live : List Relationship) (declaration : RelationshipDeclaration) :
    Option Relationship :=
  match declaration.existingId with
  | some id => live.find? fun relationship => relationship.id == id
  | none => live.find? fun relationship => relationship.name == declaration.name

/-- The update that makes a relationship what a declaration says. -/
def relationshipPatch (declaration : RelationshipDeclaration) (source target : Endpoint) :
    RelationshipPatch where
  name := some declaration.name
  source := some source
  target := some target
  sourceCardinality := some declaration.sourceCardinality
  targetCardinality := some declaration.targetCardinality

/-- Take one declaration into account.  It is passed over if one of its ends names nothing. -/
def RelationshipChanges.declare (tables : List (Table κ)) (live : List Relationship)
    (stamp : Stamp) (changes : RelationshipChanges) (declaration : RelationshipDeclaration) :
    RelationshipChanges :=
  match resolveEnds? tables declaration with
  | none => changes
  | some (source, target) =>
    match existingRelationship? live declaration with
    | some current =>
      let patch := relationshipPatch declaration source target
      if current.apply patch == current then changes
      else { changes with updated := changes.updated ++ [(current.id, patch)] }
    | none =>
      let relationship :=
        (Relationship.new stamp declaration.name source target).withCardinality
          declaration.sourceCardinality declaration.targetCardinality
      { changes with created := changes.created ++ [relationship] }

/-- What the search for renames knows about a relationship. -/
def relationshipEntity (tables : List (Table κ)) (relationship : Relationship) : Entity :=
  ⟨relationship.id, relationship.name, ContentHash.ofRelationship? relationship tables⟩

/-- The relationships that are left when tables are deleted. -/
def surviving (deleted : List Identifier) (live : List Relationship) : List Relationship :=
  live.filter fun relationship => !relationship.touchesAny deleted

/-- The declared relationships compared with the live ones. -/
def matchRelationships (declarations : List RelationshipDeclaration) (tables : List (Table κ))
    (live : List Relationship) : Matching RelationshipDeclaration :=
  matchEntities (live.map (relationshipEntity tables)) declarations

/-- The changes of relationships that a matching leads to, over the tables as they will be. -/
def reconcileRelationships (supply : Supply) (matching : Matching RelationshipDeclaration)
    (tables : List (Table κ)) (live : List Relationship) : RelationshipChanges :=
  matching.declarations.zipIdx.foldl
    (fun changes (declaration, position) =>
      changes.declare tables live (supply.get position) declaration)
    {}

/-! ## The whole model -/

/-- The stamps that building declared tables takes. -/
def tablesStamps : List TableDeclaration → Nat
  | [] => 0
  | declaration :: rest => tableStamps declaration + tablesStamps rest

/-- The stamps that reconciling a schema takes. -/
def stamps (schema : DeclaredSchema) : Nat :=
  tablesStamps schema.tables + schema.relationships.length

/-- The plan that makes a model converge on a declared schema. -/
def reconcile [Coordinate κ] (supply : Supply) (schema : DeclaredSchema) (tables : List (Table κ))
    (relationships : List Relationship) : Plan κ :=
  let tableMatching := matchTables schema.tables tables
  let tableChanges := reconcileTables supply tableMatching tables
  let left := surviving tableMatching.gone relationships
  let relationshipMatching := matchRelationships schema.relationships tables left
  let relationshipChanges :=
    reconcileRelationships (supply.drop (tablesStamps schema.tables)) relationshipMatching
      tableChanges.projected left
  { deletedTables := tableMatching.gone
    updatedTables := tableChanges.updated
    createdTables := tableChanges.created
    deletedRelationships := relationshipMatching.gone
    updatedRelationships := relationshipChanges.updated
    createdRelationships := relationshipChanges.created }

end SchemaDiagram.Reconciliation
