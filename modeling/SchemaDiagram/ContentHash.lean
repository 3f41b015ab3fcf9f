import SchemaDiagram.Text.Units
import SchemaDiagram.Model.Diagram

/-!
# Content hashes

A 32-bit polynomial hash over UTF-16 code units.  The hash of a table is taken over its field names
regardless of their order, the hash of a relationship over the names of its two ends.  Equal hashes
make two entities candidates for a rename and prove nothing more.
-/

namespace SchemaDiagram.ContentHash

/-- Continue a hash with one code unit: 31 times the hash, by a shift, plus the unit.  All of the
arithmetic wraps. -/
def step (hash : Int32) (unit : Nat) : Int32 :=
  (hash <<< 5) - hash + Int32.ofNat unit

/-- Continue a hash with the code units of a text. -/
def roll (hash : Int32) (text : String) : Int32 :=
  (Text.units text.toList).foldl step hash

def ofString (text : String) : Int32 :=
  roll 0 text

/-- The hash of the parts of a text with a colon between neighbours. -/
def ofParts : List String → Int32
  | [] => 0
  | first :: rest => rest.foldl (fun hash part => roll (roll hash ":") part) (roll 0 first)

def ofFieldNames (names : List String) : Int32 :=
  ofParts (names.mergeSort fun left right => decide (left ≤ right))

/-- The hash of a relationship between two named fields. -/
def ofEnds (sourceTable sourceField targetTable targetField : String) : Int32 :=
  ofParts [sourceTable, sourceField, targetTable, targetField]

def ofTable {κ : Type} (table : Table κ) : Int32 :=
  ofFieldNames (table.fields.map Field.name)

/-- The names of the table and the field that an end refers to, if it still refers to some. -/
def endNames? {κ : Type} (tables : List (Table κ)) (endpoint : Endpoint) :
    Option (String × String) := do
  let table ← tables.find? fun table => table.id == endpoint.tableId
  let field ← table.field? endpoint.fieldId
  return (table.name, field.name)

/-- The hash of a relationship, if both of its ends still refer to a table and a field. -/
def ofRelationship? {κ : Type} (relationship : Relationship) (tables : List (Table κ)) :
    Option Int32 := do
  let (sourceTable, sourceField) ← endNames? tables relationship.source
  let (targetTable, targetField) ← endNames? tables relationship.target
  return ofEnds sourceTable sourceField targetTable targetField

end SchemaDiagram.ContentHash
