import SchemaDiagram.Codec.Entity
import SchemaDiagram.Storage.Basic

/-!
# The JSON form of updates

An update is an object that holds the attributes it sets.  An attribute that can be cleared is
cleared by `null`; for every other one `null` means the same as its absence.
-/

namespace SchemaDiagram

open Json (object? optional? clearable?)

/-- An object of the attributes that are set. -/
def Json.ofAttributes (attributes : List (String × Option Json)) : Json :=
  .object (attributes.filterMap fun (name, value) => value.map fun value => (name, value))

namespace TablePatch

variable {κ : Type} [CoordinateCodec κ]

/-- A place as a pair of coordinates. -/
def positionJson (position : κ × κ) : Json :=
  .array [CoordinateCodec.toJson position.1, CoordinateCodec.toJson position.2]

def toJson (patch : TablePatch κ) : Json :=
  Json.ofAttributes [
    ("name", patch.name.map .string),
    ("schema", patch.schema.map (Json.ofOption Json.string)),
    ("fields", patch.fields.map (Json.ofList Field.toJson)),
    ("indexes", patch.indexes.map (Json.ofList Index.toJson)),
    ("color", patch.color.map .string),
    ("position", patch.position.map positionJson),
    ("isView", patch.isView.map .bool),
    ("comment", patch.comment.map (Json.ofOption Json.string))]

def ofJson? (json : Json) : Option (TablePatch κ) := do
  let members ← object? json
  return {
    name := ← optional? "name" Json.string? members
    schema := ← clearable? "schema" Json.string? members
    fields := ← optional? "fields" (Json.list? Field.ofJson?) members
    indexes := ← optional? "indexes" (Json.list? Index.ofJson?) members
    color := ← optional? "color" Json.string? members
    position := ← optional? "position"
      (Json.pair? CoordinateCodec.ofJson? CoordinateCodec.ofJson?) members
    isView := ← optional? "isView" Json.bool? members
    comment := ← clearable? "comment" Json.string? members }

end TablePatch

namespace FieldPatch

def toJson (patch : FieldPatch) : Json :=
  Json.ofAttributes [
    ("name", patch.name.map .string),
    ("type", patch.dataType.map DataType.toJson),
    ("nullable", patch.nullable.map .bool),
    ("unique", patch.unique.map .bool),
    ("primaryKey", patch.primaryKey.map .bool),
    ("comment", patch.comment.map (Json.ofOption Json.string))]

def ofJson? (json : Json) : Option FieldPatch := do
  let members ← object? json
  return {
    name := ← optional? "name" Json.string? members
    dataType := ← optional? "type" DataType.ofJson? members
    nullable := ← optional? "nullable" Json.bool? members
    unique := ← optional? "unique" Json.bool? members
    primaryKey := ← optional? "primaryKey" Json.bool? members
    comment := ← clearable? "comment" Json.string? members }

end FieldPatch

namespace IndexPatch

def toJson (patch : IndexPatch) : Json :=
  Json.ofAttributes [
    ("name", patch.name.map .string),
    ("unique", patch.unique.map .bool),
    ("fieldIds", patch.fieldIds.map (Json.ofList Identifier.toJson))]

def ofJson? (json : Json) : Option IndexPatch := do
  let members ← object? json
  return {
    name := ← optional? "name" Json.string? members
    unique := ← optional? "unique" Json.bool? members
    fieldIds := ← optional? "fieldIds" (Json.list? Identifier.ofJson?) members }

end IndexPatch

namespace RelationshipPatch

def toJson (patch : RelationshipPatch) : Json :=
  Json.ofAttributes [
    ("name", patch.name.map .string),
    ("source", patch.source.map Endpoint.toJson),
    ("target", patch.target.map Endpoint.toJson),
    ("sourceCardinality", patch.sourceCardinality.map Cardinality.toJson),
    ("targetCardinality", patch.targetCardinality.map Cardinality.toJson)]

def ofJson? (json : Json) : Option RelationshipPatch := do
  let members ← object? json
  return {
    name := ← optional? "name" Json.string? members
    source := ← optional? "source" Endpoint.ofJson? members
    target := ← optional? "target" Endpoint.ofJson? members
    sourceCardinality := ← optional? "sourceCardinality" Cardinality.ofJson? members
    targetCardinality := ← optional? "targetCardinality" Cardinality.ofJson? members }

end RelationshipPatch

namespace DependencyPatch

def toJson (patch : DependencyPatch) : Json :=
  Json.ofAttributes [
    ("tableId", patch.tableId.map Identifier.toJson),
    ("dependentTableId", patch.dependentTableId.map Identifier.toJson),
    ("schema", patch.schema.map (Json.ofOption Json.string)),
    ("dependentSchema", patch.dependentSchema.map (Json.ofOption Json.string))]

def ofJson? (json : Json) : Option DependencyPatch := do
  let members ← object? json
  return {
    tableId := ← optional? "tableId" Identifier.ofJson? members
    dependentTableId := ← optional? "dependentTableId" Identifier.ofJson? members
    schema := ← clearable? "schema" Json.string? members
    dependentSchema := ← clearable? "dependentSchema" Json.string? members }

end DependencyPatch

def DiagramUpdate.ofJson? (json : Json) : Option DiagramUpdate := do
  let members ← object? json
  return {
    name := ← optional? "name" Json.string? members
    dialect := ← optional? "databaseType" Dialect.ofJson? members
    updatedAt := ← optional? "updatedAt" Timestamp.ofJson? members }

end SchemaDiagram
