import SchemaDiagram.Codec.Entity
import SchemaDiagram.Session.Schemas

/-!
# The JSON form of sessions

What a session shows of itself, and the form in which a refusal is reported: the kind of the error
and its message.
-/

namespace SchemaDiagram

def Json.ofRefusal (kind : String) (message : Option String) : Json :=
  .object (("error", .string kind) ::
    (message.map fun text => ("message", Json.string text)).toList)

/-- A storage error as a record.  What is wrong with a document is not told. -/
def StorageError.toJson (error : StorageError) : Json :=
  match error with
  | diagramNotFound _ => Json.ofRefusal "DiagramNotFound" (some error.message)
  | entityNotFound _ _ => Json.ofRefusal "EntityNotFound" (some error.message)
  | unavailable _ => Json.ofRefusal "Unavailable" (some error.message)
  | serialization => Json.ofRefusal "Serialization" none

def SessionError.toJson (error : SessionError) : Json :=
  match error with
  | noDiagramLoaded => Json.ofRefusal "NoDiagramLoaded" (some error.message)
  | tableNotFound _ => Json.ofRefusal "TableNotFound" (some error.message)
  | fieldNotFound _ _ => Json.ofRefusal "FieldNotFound" (some error.message)
  | indexNotFound _ _ => Json.ofRefusal "IndexNotFound" (some error.message)
  | relationshipNotFound _ => Json.ofRefusal "RelationshipNotFound" (some error.message)
  | dependencyNotFound _ => Json.ofRefusal "DependencyNotFound" (some error.message)
  | storage error => error.toJson

def SchemaInfo.toJson (info : SchemaInfo) : Json :=
  .object [
    ("id", .string info.id),
    ("name", .string info.name),
    ("tableCount", Json.ofInt info.tableCount)]

/-- The settings as a record. -/
def Config.toJson (config : Config) : Json :=
  .object [
    ("databaseType", config.dialect.toJson),
    ("quietWindowMs", Json.ofInt config.quietWindow),
    ("eventCapacity", Json.ofInt config.eventCapacity)]

/-- A dialect with everything that follows from it. -/
def Dialect.profile (dialect : Dialect) : Json :=
  .object [
    ("display", .string dialect.displayName),
    ("json", dialect.toJson),
    ("hasSchemas", .bool dialect.hasSchemas),
    ("defaultSchema", Json.ofOption Json.string dialect.defaultSchema?),
    ("defaultIdType", dialect.idType.toJson),
    ("dataTypes", Json.ofList DataType.toJson dialect.types)]

/-- What a session shows of its diagram without the entities. -/
def Session.overview {κ : Type} (session : Session κ) : Json :=
  .object [
    ("diagramId", Json.ofOption (fun (diagram : Diagram κ) => diagram.id.toJson)
      session.diagram?),
    ("databaseType", session.dialect.toJson),
    ("updatedAt", Json.ofOption (fun (diagram : Diagram κ) => diagram.updatedAt.toJson)
      session.diagram?),
    ("tables", Json.ofInt session.tables.length),
    ("relationships", Json.ofInt session.relationships.length),
    ("dependencies", Json.ofInt session.dependencies.length),
    ("canUndo", .bool session.history.canUndo),
    ("canRedo", .bool session.history.canRedo)]

/-- The entities with given identifiers, each of which may be left out.  Fields and indexes are
looked for in the given table. -/
def Session.find {κ : Type} [CoordinateCodec κ] (session : Session κ)
    (table field index relationship dependency : Option Identifier) : Json :=
  let found := table.bind session.table?
  .object [
    ("table", Json.ofOption Table.toJson found),
    ("field", Json.ofOption Field.toJson (found.bind fun table => field.bind table.field?)),
    ("index", Json.ofOption Index.toJson (found.bind fun table => index.bind table.index?)),
    ("relationship",
      Json.ofOption Relationship.toJson (relationship.bind session.relationship?)),
    ("dependency", Json.ofOption Dependency.toJson (dependency.bind session.dependency?))]

end SchemaDiagram
