import SchemaDiagram.Codec.Entity
import SchemaDiagram.SchemaText.Declaration

/-!
# The JSON form of declared schemas

What a schema text declares, as records with fixed member names.
-/

namespace SchemaDiagram

open Json (required? optional? members?)

/-- The JSON form of content hashes: integers of 32 bits with a sign. -/
def ContentHash.toJson (hash : Int32) : Json :=
  Json.ofInt hash.toInt

/-- Read a content hash. -/
def ContentHash.ofJson? (json : Json) : Option Int32 :=
  (json.int? Int32.minValue.toInt Int32.maxValue.toInt).map Int32.ofInt

namespace FieldDeclaration

def memberNames : List String :=
  ["name", "data_type", "primary_key", "unique", "nullable", "comment"]

def toJson (field : FieldDeclaration) : Json :=
  .object [
    ("name", .string field.name),
    ("data_type", field.dataType.toJson),
    ("primary_key", .bool field.primaryKey),
    ("unique", .bool field.unique),
    ("nullable", .bool field.nullable),
    ("comment", Json.ofOption Json.string field.comment)]

def ofJson? (json : Json) : Option FieldDeclaration := do
  let members ← members? memberNames 0 json
  return {
    name := ← required? "name" Json.string? members
    dataType := ← required? "data_type" DataType.ofJson? members
    primaryKey := ← required? "primary_key" Json.bool? members
    unique := ← required? "unique" Json.bool? members
    nullable := ← required? "nullable" Json.bool? members
    comment := ← optional? "comment" Json.string? members }

end FieldDeclaration

namespace IndexDeclaration

def toJson (index : IndexDeclaration) : Json :=
  .object [
    ("name", .string index.name),
    ("unique", .bool index.unique),
    ("fields", Json.ofList Json.string index.fields)]

def ofJson? (json : Json) : Option IndexDeclaration := do
  let members ← members? ["name", "unique", "fields"] 0 json
  return {
    name := ← required? "name" Json.string? members
    unique := ← required? "unique" Json.bool? members
    fields := ← required? "fields" (Json.list? Json.string?) members }

end IndexDeclaration

namespace TableDeclaration

def memberNames : List String :=
  ["name", "comment", "fields", "indexes", "content_hash", "existing_id"]

def toJson (table : TableDeclaration) : Json :=
  .object [
    ("name", .string table.name),
    ("comment", Json.ofOption Json.string table.comment),
    ("fields", Json.ofList FieldDeclaration.toJson table.fields),
    ("indexes", Json.ofList IndexDeclaration.toJson table.indexes),
    ("content_hash", ContentHash.toJson table.contentHash),
    ("existing_id", Json.ofOption Identifier.toJson table.existingId)]

def ofJson? (json : Json) : Option TableDeclaration := do
  let members ← members? memberNames 0 json
  return {
    name := ← required? "name" Json.string? members
    comment := ← optional? "comment" Json.string? members
    fields := ← required? "fields" (Json.list? FieldDeclaration.ofJson?) members
    indexes := ← required? "indexes" (Json.list? IndexDeclaration.ofJson?) members
    contentHash := ← required? "content_hash" ContentHash.ofJson? members
    existingId := ← optional? "existing_id" Identifier.ofJson? members }

end TableDeclaration

namespace RelationshipDeclaration

def memberNames : List String :=
  ["name", "source_table", "source_field", "target_table", "target_field", "source_cardinality",
    "target_cardinality", "content_hash", "existing_id"]

def toJson (relationship : RelationshipDeclaration) : Json :=
  .object [
    ("name", .string relationship.name),
    ("source_table", .string relationship.sourceTable),
    ("source_field", .string relationship.sourceField),
    ("target_table", .string relationship.targetTable),
    ("target_field", .string relationship.targetField),
    ("source_cardinality", relationship.sourceCardinality.toJson),
    ("target_cardinality", relationship.targetCardinality.toJson),
    ("content_hash", ContentHash.toJson relationship.contentHash),
    ("existing_id", Json.ofOption Identifier.toJson relationship.existingId)]

def ofJson? (json : Json) : Option RelationshipDeclaration := do
  let members ← members? memberNames 0 json
  return {
    name := ← required? "name" Json.string? members
    sourceTable := ← required? "source_table" Json.string? members
    sourceField := ← required? "source_field" Json.string? members
    targetTable := ← required? "target_table" Json.string? members
    targetField := ← required? "target_field" Json.string? members
    sourceCardinality := ← required? "source_cardinality" Cardinality.ofJson? members
    targetCardinality := ← required? "target_cardinality" Cardinality.ofJson? members
    contentHash := ← required? "content_hash" ContentHash.ofJson? members
    existingId := ← optional? "existing_id" Identifier.ofJson? members }

end RelationshipDeclaration

namespace DeclaredSchema

def toJson (schema : DeclaredSchema) : Json :=
  .object [
    ("tables", Json.ofList TableDeclaration.toJson schema.tables),
    ("relationships", Json.ofList RelationshipDeclaration.toJson schema.relationships)]

def ofJson? (json : Json) : Option DeclaredSchema := do
  let members ← members? ["tables", "relationships"] 0 json
  return {
    tables := ← required? "tables" (Json.list? TableDeclaration.ofJson?) members
    relationships :=
      ← required? "relationships" (Json.list? RelationshipDeclaration.ofJson?) members }

end DeclaredSchema

end SchemaDiagram
