import SchemaDiagram.SchemaText.Comment
import SchemaDiagram.SchemaText.Block
import SchemaDiagram.SchemaText.Statement
import SchemaDiagram.SchemaText.Declaration

/-!
# Reading schema text

Comments go first; then the text is cut at its table blocks, and relationships are read from the
pieces between them.  Reading never fails: what fits no statement is passed over, so that a text
can be read while it is being typed.
-/

namespace SchemaDiagram.SchemaText

open SchemaDiagram.Text

/-- The flags of a field that its tags set. -/
structure FieldFlags where
  primaryKey : Bool := false
  unique : Bool := false
  nullable : Bool := false

/-- Take one tag of a field into account; a tag with no meaning changes nothing. -/
def FieldFlags.set (flags : FieldFlags) (tag : String) : FieldFlags :=
  if tag = "primary key" ∨ tag = "pk" then { flags with primaryKey := true }
  else if tag = "unique" then { flags with unique := true }
  else if tag = "null" then { flags with nullable := true }
  else if tag = "not null" then { flags with nullable := false }
  else flags

/-- The flags that a list of tags sets, read from left to right and in any case. -/
def fieldFlags (tags : List Char) : FieldFlags :=
  (splitAt ',' tags).foldl
    (fun flags tag => flags.set (String.ofList (lowercase (trim tag)))) {}

/-- The field that a statement declares.  A primary key is unique. -/
def FieldStatement.declare (dialect : Dialect) (statement : FieldStatement) : FieldDeclaration :=
  let (note, tags) := extractTag noteKeyword statement.tags
  let flags := fieldFlags tags
  { name := String.ofList statement.name
    dataType := dialect.resolveType (String.ofList statement.type)
    primaryKey := flags.primaryKey
    unique := flags.unique || flags.primaryKey
    nullable := flags.nullable
    comment := note.map String.ofList }

/-- The field names in a list with commas; empty names are dropped. -/
def indexFieldNames (fields : List Char) : List (List Char) :=
  ((splitAt ',' fields).map trim).filter fun name => !name.isEmpty

def uniqueTag : List Char := ['u', 'n', 'i', 'q', 'u', 'e']

/-- The index that a statement declares; an index over no field is none.  An index without a name is
named after its fields. -/
def IndexStatement.declare? (statement : IndexStatement) : Option IndexDeclaration :=
  let fields := indexFieldNames statement.fields
  if fields.isEmpty then none
  else
    let (name, tags) := extractTag nameKeyword statement.tags
    some {
      name := String.ofList (name.getD (joinWith ['_'] fields))
      unique := (splitAt ',' tags).any fun tag => equalIgnoringCase (trim tag) uniqueTag
      fields := fields.map String.ofList }

def RelationshipStatement.declare (statement : RelationshipStatement) :
    RelationshipDeclaration :=
  let sourceTable := String.ofList statement.source.table
  let sourceField := String.ofList statement.source.field
  let targetTable := String.ofList statement.target.table
  let targetField := String.ofList statement.target.field
  { name := String.ofList statement.name
    sourceTable := sourceTable
    sourceField := sourceField
    targetTable := targetTable
    targetField := targetField
    sourceCardinality := Cardinality.ofMark (String.ofList statement.source.cardinality)
    targetCardinality := Cardinality.ofMark (String.ofList statement.target.cardinality)
    contentHash := ContentHash.ofEnds sourceTable sourceField targetTable targetField
    existingId := none }

def indexesOfBody (body : List Char) : List IndexDeclaration :=
  (Occurrences.ofText takeIndex? body).items.filterMap IndexStatement.declare?

def Block.declare (dialect : Dialect) (block : Block) : TableDeclaration :=
  let (fieldPart, indexBody) := splitBody block.body
  let fieldLines := splitAt '\n' fieldPart
  let fields := (fieldLines.filterMap fieldOfLine?).map (FieldStatement.declare dialect)
  { name := String.ofList block.name
    comment := (fieldLines.findSome? noteOfLine?).map fun note => String.ofList (unescape note)
    fields := fields
    indexes := (indexBody.map indexesOfBody).getD []
    contentHash := ContentHash.ofFieldNames (fields.map FieldDeclaration.name)
    existingId := none }

/-- The relationships that a piece of text outside table blocks declares. -/
def relationshipsOfPiece (piece : List Char) : List RelationshipDeclaration :=
  (Occurrences.ofText takeRelationship? piece).items.map RelationshipStatement.declare

/-- What a text without comments declares. -/
def parsePlain (dialect : Dialect) (text : List Char) : DeclaredSchema :=
  let cut := blocks text
  { tables := cut.items.map (Block.declare dialect)
    relationships := cut.pieces.flatMap relationshipsOfPiece }

/-- What a schema text declares. -/
def parse (dialect : Dialect) (text : String) : DeclaredSchema :=
  parsePlain dialect (stripComments text.toList)

end SchemaDiagram.SchemaText
