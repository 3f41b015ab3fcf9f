import SchemaDiagram.SchemaText.Quote
import SchemaDiagram.ContentHash

/-!
# Writing schema text

A model as schema text: one block per table in the order of the model, then the relationships one
per line, with an empty line between blocks and no line break at the end.  Relationships whose ends
refer to nothing, indexes over no field and indexes that back a primary key are left out.
-/

namespace SchemaDiagram.SchemaText

open SchemaDiagram.Text

/-- A fixed word as characters. -/
def word (text : String) : List Char := text.toList

def quotedTag (keyword value : String) : List Char :=
  word keyword ++ word ": " ++ quote value.toList

/-- Tags in brackets behind a blank; nothing if there are none. -/
def bracketed (tags : List (List Char)) : List Char :=
  if tags.isEmpty then [] else ' ' :: '[' :: (joinWith (word ", ") tags ++ [']'])

/-- The tags of a field.  A primary key is unique anyway, so that tag is left out. -/
def fieldTags (field : Field) : List (List Char) :=
  (if field.unique && !field.primaryKey then [word "unique"] else []) ++
  (if field.primaryKey then [word "primary key"] else []) ++
  (if field.nullable then [word "null"] else []) ++
  (field.comment.map (quotedTag "note")).toList

def fieldLine (field : Field) : List Char :=
  field.name.toList ++ ' ' :: field.dataType.name.toList ++ bracketed (fieldTags field)

def indexTags (index : Index) : List (List Char) :=
  (if index.unique then [word "unique"] else []) ++ [quotedTag "name" index.name]

/-- The names of the fields that an index covers. -/
def indexFields {κ : Type} (table : Table κ) (index : Index) : List String :=
  index.fieldIds.filterMap fun id => (table.field? id).map Field.name

/-- The line of an index; nothing if none of its fields is left. -/
def indexLine? {κ : Type} (table : Table κ) (index : Index) : Option (List Char) :=
  let names := indexFields table index
  if names.isEmpty then none
  else some ('(' :: (joinWith (word ", ") (names.map String.toList) ++
    ')' :: bracketed (indexTags index)))

/-- The lines of the indexes that appear in the text. -/
def indexLines {κ : Type} (table : Table κ) : List (List Char) :=
  (table.indexes.filter fun index => !index.isPrimaryKey).filterMap (indexLine? table)

/-- A line with its indentation and line break. -/
def indented (level : Nat) (line : List Char) : List Char :=
  List.replicate level '\t' ++ line ++ ['\n']

/-- The block of indexes within a table; nothing if there are none. -/
def indexBlock (entries : List (List Char)) : List Char :=
  if entries.isEmpty then []
  else
    indented 1 (word "Indexes \x7b") ++ entries.flatMap (indented 2) ++ indented 1 ['\x7d']

/-- What stands between the braces of a table. -/
def tableBody {κ : Type} (table : Table κ) : List Char :=
  '\n' :: (((table.comment.map fun comment =>
      indented 1 (quotedTag "Note" comment)).getD []) ++
    table.fields.flatMap (fun field => indented 1 (fieldLine field)) ++
    indexBlock (indexLines table))

def tableText {κ : Type} (table : Table κ) : List Char :=
  word "Table " ++ table.name.toList ++ word " \x7b" ++ tableBody table ++ ['\x7d']

/-- The table and the field that an end refers to, with a point between their names. -/
def endText? {κ : Type} (tables : List (Table κ)) (endpoint : Endpoint) : Option (List Char) :=
  (ContentHash.endNames? tables endpoint).map fun (table, field) =>
    table.toList ++ '.' :: field.toList

/-- The line of a relationship; nothing if one of its ends refers to nothing. -/
def relationshipLine? {κ : Type} (tables : List (Table κ)) (relationship : Relationship) :
    Option (List Char) := do
  let source ← endText? tables relationship.source
  let target ← endText? tables relationship.target
  return word "Rel " ++ relationship.name.toList ++ word ": " ++
    word relationship.sourceCardinality.mark ++ ' ' :: source ++ word ", " ++
    word relationship.targetCardinality.mark ++ ' ' :: target

/-- The lines of the relationships, as one block; nothing if there are none. -/
def relationshipBlock {κ : Type} (tables : List (Table κ)) (relationships : List Relationship) :
    List (List Char) :=
  let entries := relationships.filterMap (relationshipLine? tables)
  if entries.isEmpty then [] else [joinWith ['\n'] entries]

/-- A model as schema text, character by character. -/
def generateChars {κ : Type} (tables : List (Table κ)) (relationships : List Relationship) :
    List Char :=
  joinWith ['\n', '\n'] (tables.map tableText ++ relationshipBlock tables relationships)

/-- A model as schema text. -/
def generate {κ : Type} (tables : List (Table κ)) (relationships : List Relationship) : String :=
  String.ofList (generateChars tables relationships)

end SchemaDiagram.SchemaText
