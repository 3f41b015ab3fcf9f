import SchemaDiagram.Json.Basic
import SchemaDiagram.Model.Diagram

/-!
# The JSON form of entities

Every entity is a record with a fixed order of members.  Optional attributes are written as `null`
when they are not set, and may be missing when they are read.  Members that are not known are
ignored.
-/

namespace SchemaDiagram

open Json (required? optional? defaulted? members?)

/-- The JSON form of coordinates. -/
class CoordinateCodec (κ : Type) where
  toJson : κ → Json
  ofJson? : Json → Option κ

instance : CoordinateCodec Float where
  toJson := Json.ofFloat
  ofJson? := Json.float?

namespace Identifier

def toJson (id : Identifier) : Json :=
  .string id.toText

def ofJson? (json : Json) : Option Identifier :=
  json.string?.bind fun text => read? text.toList

end Identifier

namespace Timestamp

def toJson (time : Timestamp) : Json :=
  .string time.toText

def ofJson? (json : Json) : Option Timestamp :=
  json.string?.bind fun text => read? text.toList

end Timestamp

namespace Dialect

/-- The code that stands for a dialect in a document. -/
def code : Dialect → String
  | generic => "generic"
  | postgreSql => "postgre_sql"
  | mySql => "my_sql"
  | mariaDb => "maria_db"
  | sqlite => "sqlite"
  | sqlServer => "sql_server"

def toJson (dialect : Dialect) : Json :=
  .string dialect.code

def ofJson? (json : Json) : Option Dialect :=
  json.caseName?.bind fun name => all.find? fun dialect => dialect.code == name

end Dialect

namespace DataType

def toJson (type : DataType) : Json :=
  .object [("id", .string type.id), ("name", .string type.name)]

def ofJson? (json : Json) : Option DataType := do
  let members ← members? ["id", "name"] 0 json
  return {
    id := ← required? "id" Json.string? members
    name := ← required? "name" Json.string? members }

end DataType

namespace Field

def memberNames : List String :=
  ["id", "name", "type", "nullable", "unique", "primaryKey", "comment", "createdAt"]

def toJson (field : Field) : Json :=
  .object [
    ("id", field.id.toJson),
    ("name", .string field.name),
    ("type", field.dataType.toJson),
    ("nullable", .bool field.nullable),
    ("unique", .bool field.unique),
    ("primaryKey", .bool field.primaryKey),
    ("comment", Json.ofOption Json.string field.comment),
    ("createdAt", field.createdAt.toJson)]

def ofJson? (json : Json) : Option Field := do
  let members ← members? memberNames 0 json
  return {
    id := ← required? "id" Identifier.ofJson? members
    name := ← required? "name" Json.string? members
    dataType := ← required? "type" DataType.ofJson? members
    nullable := ← required? "nullable" Json.bool? members
    unique := ← required? "unique" Json.bool? members
    primaryKey := ← required? "primaryKey" Json.bool? members
    comment := ← optional? "comment" Json.string? members
    createdAt := ← required? "createdAt" Timestamp.ofJson? members }

end Field

namespace Index

def memberNames : List String :=
  ["id", "name", "unique", "fieldIds", "isPrimaryKey", "createdAt"]

def toJson (index : Index) : Json :=
  .object [
    ("id", index.id.toJson),
    ("name", .string index.name),
    ("unique", .bool index.unique),
    ("fieldIds", Json.ofList Identifier.toJson index.fieldIds),
    ("isPrimaryKey", .bool index.isPrimaryKey),
    ("createdAt", index.createdAt.toJson)]

/-- Read an index from a record.  Unless it says otherwise it backs no primary key. -/
def ofJson? (json : Json) : Option Index := do
  let members ← members? memberNames 0 json
  return {
    id := ← required? "id" Identifier.ofJson? members
    name := ← required? "name" Json.string? members
    unique := ← required? "unique" Json.bool? members
    fieldIds := ← required? "fieldIds" (Json.list? Identifier.ofJson?) members
    isPrimaryKey := ← defaulted? "isPrimaryKey" false Json.bool? members
    createdAt := ← required? "createdAt" Timestamp.ofJson? members }

end Index

namespace Table

variable {κ : Type} [CoordinateCodec κ]

def memberNames : List String :=
  ["id", "name", "schema", "fields", "indexes", "color", "x", "y", "isView", "comment",
    "createdAt"]

def toJson (table : Table κ) : Json :=
  .object [
    ("id", table.id.toJson),
    ("name", .string table.name),
    ("schema", Json.ofOption Json.string table.schema),
    ("fields", Json.ofList Field.toJson table.fields),
    ("indexes", Json.ofList Index.toJson table.indexes),
    ("color", .string table.color),
    ("x", CoordinateCodec.toJson table.x),
    ("y", CoordinateCodec.toJson table.y),
    ("isView", .bool table.isView),
    ("comment", Json.ofOption Json.string table.comment),
    ("createdAt", table.createdAt.toJson)]

def ofJson? (json : Json) : Option (Table κ) := do
  let members ← members? memberNames 0 json
  return {
    id := ← required? "id" Identifier.ofJson? members
    name := ← required? "name" Json.string? members
    schema := ← optional? "schema" Json.string? members
    fields := ← required? "fields" (Json.list? Field.ofJson?) members
    indexes := ← required? "indexes" (Json.list? Index.ofJson?) members
    color := ← required? "color" Json.string? members
    x := ← required? "x" CoordinateCodec.ofJson? members
    y := ← required? "y" CoordinateCodec.ofJson? members
    isView := ← required? "isView" Json.bool? members
    comment := ← optional? "comment" Json.string? members
    createdAt := ← required? "createdAt" Timestamp.ofJson? members }

end Table

namespace Cardinality

/-- The code that stands for a cardinality in a document. -/
def code : Cardinality → String
  | one => "one"
  | many => "many"

def toJson (cardinality : Cardinality) : Json :=
  .string cardinality.code

def ofJson? (json : Json) : Option Cardinality :=
  json.caseName?.bind fun name => [one, many].find? fun cardinality => cardinality.code == name

end Cardinality

namespace Endpoint

def toJson (endpoint : Endpoint) : Json :=
  .object [
    ("tableId", endpoint.tableId.toJson),
    ("fieldId", endpoint.fieldId.toJson),
    ("schema", Json.ofOption Json.string endpoint.schema)]

def ofJson? (json : Json) : Option Endpoint := do
  let members ← members? ["tableId", "fieldId", "schema"] 0 json
  return {
    tableId := ← required? "tableId" Identifier.ofJson? members
    fieldId := ← required? "fieldId" Identifier.ofJson? members
    schema := ← optional? "schema" Json.string? members }

end Endpoint

namespace Relationship

def memberNames : List String :=
  ["id", "name", "source", "target", "sourceCardinality", "targetCardinality", "createdAt"]

def toJson (relationship : Relationship) : Json :=
  .object [
    ("id", relationship.id.toJson),
    ("name", .string relationship.name),
    ("source", relationship.source.toJson),
    ("target", relationship.target.toJson),
    ("sourceCardinality", relationship.sourceCardinality.toJson),
    ("targetCardinality", relationship.targetCardinality.toJson),
    ("createdAt", relationship.createdAt.toJson)]

def ofJson? (json : Json) : Option Relationship := do
  let members ← members? memberNames 0 json
  return {
    id := ← required? "id" Identifier.ofJson? members
    name := ← required? "name" Json.string? members
    source := ← required? "source" Endpoint.ofJson? members
    target := ← required? "target" Endpoint.ofJson? members
    sourceCardinality := ← required? "sourceCardinality" Cardinality.ofJson? members
    targetCardinality := ← required? "targetCardinality" Cardinality.ofJson? members
    createdAt := ← required? "createdAt" Timestamp.ofJson? members }

end Relationship

namespace Dependency

def memberNames : List String :=
  ["id", "tableId", "dependentTableId", "schema", "dependentSchema", "createdAt"]

def toJson (dependency : Dependency) : Json :=
  .object [
    ("id", dependency.id.toJson),
    ("tableId", dependency.tableId.toJson),
    ("dependentTableId", dependency.dependentTableId.toJson),
    ("schema", Json.ofOption Json.string dependency.schema),
    ("dependentSchema", Json.ofOption Json.string dependency.dependentSchema),
    ("createdAt", dependency.createdAt.toJson)]

def ofJson? (json : Json) : Option Dependency := do
  let members ← members? memberNames 0 json
  return {
    id := ← required? "id" Identifier.ofJson? members
    tableId := ← required? "tableId" Identifier.ofJson? members
    dependentTableId := ← required? "dependentTableId" Identifier.ofJson? members
    schema := ← optional? "schema" Json.string? members
    dependentSchema := ← optional? "dependentSchema" Json.string? members
    createdAt := ← required? "createdAt" Timestamp.ofJson? members }

end Dependency

namespace DiagramSummary

/-- The entry of a diagram in a list as a record. -/
def toJson (summary : DiagramSummary) : Json :=
  .object [
    ("id", summary.id.toJson),
    ("name", .string summary.name),
    ("databaseType", summary.dialect.toJson),
    ("createdAt", summary.createdAt.toJson),
    ("updatedAt", summary.updatedAt.toJson)]

end DiagramSummary

namespace Diagram

variable {κ : Type} [CoordinateCodec κ]

/-- The members of a diagram in order; the last three may be missing. -/
def memberNames : List String :=
  ["id", "name", "databaseType", "createdAt", "updatedAt", "tables", "relationships",
    "dependencies"]

def toJson (diagram : Diagram κ) : Json :=
  .object [
    ("id", diagram.id.toJson),
    ("name", .string diagram.name),
    ("databaseType", diagram.dialect.toJson),
    ("createdAt", diagram.createdAt.toJson),
    ("updatedAt", diagram.updatedAt.toJson),
    ("tables", Json.ofList Table.toJson diagram.tables),
    ("relationships", Json.ofList Relationship.toJson diagram.relationships),
    ("dependencies", Json.ofList Dependency.toJson diagram.dependencies)]

def ofJson? (json : Json) : Option (Diagram κ) := do
  let members ← members? memberNames 3 json
  return {
    id := ← required? "id" Identifier.ofJson? members
    name := ← required? "name" Json.string? members
    dialect := ← required? "databaseType" Dialect.ofJson? members
    createdAt := ← required? "createdAt" Timestamp.ofJson? members
    updatedAt := ← required? "updatedAt" Timestamp.ofJson? members
    tables := ← defaulted? "tables" [] (Json.list? Table.ofJson?) members
    relationships := ← defaulted? "relationships" [] (Json.list? Relationship.ofJson?) members
    dependencies := ← defaulted? "dependencies" [] (Json.list? Dependency.ofJson?) members }

end Diagram

end SchemaDiagram
