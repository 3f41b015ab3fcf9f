import SchemaDiagram.Session.Basic

/-!
# Schemas

Some dialects group tables into named schemas.  The tables shown can be restricted to chosen
schemas; unless others are asked for, the default schema is chosen, or the first one.
-/

namespace SchemaDiagram

/-- A schema with the number of its tables. -/
structure SchemaInfo where
  id : String
  name : String
  tableCount : Nat
  deriving DecidableEq, Repr

/-- The identifier of a schema: its name in lower case with underscores for spaces. -/
def schemaId (name : String) : String :=
  String.ofList ((Text.lowercase name.toList).map fun c => if c = ' ' then '_' else c)

namespace Session

variable {κ : Type}

/-- The schema names that tables carry, each once and in ascending order. -/
def schemaNames (tables : List (Table κ)) : List String :=
  ((tables.filterMap Table.schema).mergeSort fun left right => decide (left ≤ right)).eraseReps

/-- Whether a name may stand in front of another one: the default one in front of all others, and
these in ascending order. -/
def mayPrecede (default : Option String) (left right : String) : Bool :=
  match some left == default, some right == default with
  | true, false => true
  | false, true => false
  | _, _ => decide (left ≤ right)

/-- Names with the default one in front. -/
def defaultFirst (default : Option String) (names : List String) : List String :=
  names.mergeSort (mayPrecede default)

def schemaInfo (tables : List (Table κ)) (name : String) : SchemaInfo where
  id := schemaId name
  name := name
  tableCount := tables.countP fun table => table.schema == some name

/-- The schemas in use, the default one first; dialects without schemas have none. -/
def schemas (session : Session κ) : List SchemaInfo :=
  if session.dialect.hasSchemas then
    (defaultFirst session.dialect.defaultSchema? (schemaNames session.tables)).map
      (schemaInfo session.tables)
  else []

/-- Restrict the visible tables to schemas; an empty list lifts the restriction. -/
def filterSchemas (session : Session κ) (ids : List String) : Session κ :=
  { session with schemaFilter := if ids.isEmpty then none else some ids }

/-- The identifiers of the chosen schemas; nothing if there are no schemas. -/
def chosenSchemas (session : Session κ) : Option (List String) :=
  match session.schemas with
  | [] => none
  | first :: rest =>
    match session.schemaFilter with
    | some ids => some ids
    | none =>
      let default := (first :: rest).find? fun schema =>
        some schema.name == session.dialect.defaultSchema?
      some [(default.getD first).id]

/-- Whether a table is shown under a choice of schemas. -/
def isVisible (chosen : Option (List String)) (table : Table κ) : Bool :=
  match chosen, table.schema with
  | some ids, some schema => ids.contains (schemaId schema)
  | _, _ => true

/-- The tables shown under the present choice. -/
def visibleTables (session : Session κ) : List (Table κ) :=
  session.tables.filter (isVisible session.chosenSchemas)

end Session

end SchemaDiagram
