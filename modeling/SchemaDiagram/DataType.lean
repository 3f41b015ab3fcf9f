import SchemaDiagram.Dialect

/-!
# Data types

The type of a field as an identifier and the name it is written with.  A written name is resolved
against the types of a dialect: known names get their canonical spelling, arguments are kept under
the identifier of their base type, and an unknown name is kept as it is.
-/

namespace SchemaDiagram

structure DataType where
  id : String
  name : String
  deriving DecidableEq, Repr, Inhabited

namespace DataType

/-- A type whose identifier is its name. -/
def plain (name : String) : DataType := ⟨name, name⟩

/-- A type that no dialect knows. -/
def literal (name : String) : DataType := ⟨Text.lowered name, name⟩

/-- Short names accepted in schema text, with the names they stand for. -/
def aliases : List (String × String) := [("string", "varchar(255)"), ("int", "integer")]

end DataType

namespace Dialect

open DataType (plain)

/-- The one type whose name is not its identifier. -/
def doublePrecision : DataType := ⟨"double_precision", "double precision"⟩

def types : Dialect → List DataType
  | generic => [
    plain "bigint", plain "binary", plain "blob", plain "boolean", plain "char", plain "date",
    plain "datetime", plain "decimal", doublePrecision, plain "float", plain "integer",
    plain "json", plain "numeric", plain "real", plain "smallint", plain "text", plain "time",
    plain "timestamp", plain "uuid", plain "varchar"]
  | postgreSql => [
    plain "bigint", plain "bigserial", plain "boolean", plain "bytea", plain "char", plain "date",
    doublePrecision, plain "integer", plain "interval", plain "json", plain "jsonb",
    plain "numeric", plain "real", plain "serial", plain "smallint", plain "text", plain "time",
    plain "timestamp", plain "timestamptz", plain "uuid", plain "varchar"]
  | mySql | mariaDb => [
    plain "bigint", plain "binary", plain "blob", plain "boolean", plain "char", plain "date",
    plain "datetime", plain "decimal", plain "double", plain "enum", plain "float", plain "int",
    plain "integer", plain "json", plain "longtext", plain "mediumint", plain "smallint",
    plain "text", plain "time", plain "timestamp", plain "tinyint", plain "varchar"]
  | sqlite => [
    plain "blob", plain "integer", plain "numeric", plain "real", plain "text"]
  | sqlServer => [
    plain "bigint", plain "bit", plain "char", plain "date", plain "datetime", plain "datetime2",
    plain "decimal", plain "float", plain "int", plain "money", plain "nchar", plain "nvarchar",
    plain "smallint", plain "text", plain "time", plain "tinyint", plain "uniqueidentifier",
    plain "varchar"]

/-- The type of the key field that a new table starts with. -/
def idType : Dialect → DataType
  | sqlite => plain "integer"
  | _ => plain "bigint"

def typeNamed? (dialect : Dialect) (name : String) : Option DataType :=
  dialect.types.find? fun type => type.name == name

/-- The name in front of an argument list, without blanks at its end; nothing if there is none. -/
def baseName? (name : String) : Option String :=
  if name.toList.contains '(' then
    some (String.ofList (Text.trimEnd (name.toList.takeWhile (· != '('))))
  else none

/-- The type that a written name stands for.  A name that the dialect declares wins over an alias of
the same spelling. -/
def resolveType (dialect : Dialect) (written : String) : DataType :=
  let written := Text.trimmed written
  match dialect.typeNamed? (Text.lowered written) with
  | some type => type
  | none =>
    let name := (DataType.aliases.lookup (Text.lowered written)).getD written
    match dialect.typeNamed? (Text.lowered name) with
    | some type => type
    | none =>
      match (baseName? (Text.lowered name)).bind dialect.typeNamed? with
      | some base => ⟨base.id, name⟩
      | none => DataType.literal name

end Dialect

end SchemaDiagram
