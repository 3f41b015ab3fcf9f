import SchemaDiagram.Text.Lowercase

/-!
# Dialects

The SQL dialects a diagram can be drawn for.  A dialect is named by its display name or a common
abbreviation, in any case and with blanks around it.
-/

namespace SchemaDiagram

inductive Dialect where
  | generic
  | postgreSql
  | mySql
  | mariaDb
  | sqlite
  | sqlServer
  deriving DecidableEq, Repr, Inhabited

namespace Dialect

def all : List Dialect := [generic, postgreSql, mySql, mariaDb, sqlite, sqlServer]

/-- The name shown to users. -/
def displayName : Dialect → String
  | generic => "generic"
  | postgreSql => "postgresql"
  | mySql => "mysql"
  | mariaDb => "mariadb"
  | sqlite => "sqlite"
  | sqlServer => "sql_server"

/-- Other names that a dialect may be given. -/
def nicknames : Dialect → List String
  | postgreSql => ["postgres"]
  | sqlServer => ["sqlserver", "mssql"]
  | _ => []

/-- The form in which a dialect's name is looked up. -/
def lookupName (name : String) : String :=
  Text.lowered (Text.trimmed name)

def ofName? (name : String) : Option Dialect :=
  all.find? fun dialect =>
    dialect.displayName == lookupName name || dialect.nicknames.contains (lookupName name)

def unknownMessage (name : String) : String :=
  "Unknown database type: " ++ lookupName name

/-- Whether the tables of a dialect are grouped into named schemas. -/
def hasSchemas : Dialect → Bool
  | postgreSql | sqlServer => true
  | _ => false

/-- The schema that tables belong to by default. -/
def defaultSchema? : Dialect → Option String
  | postgreSql => some "public"
  | sqlServer => some "dbo"
  | _ => none

end Dialect

end SchemaDiagram
