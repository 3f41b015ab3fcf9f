import SchemaDiagram.Proofs.SchemaText.RoundTrip

/-!
# The text of a declared schema

The text of a model says what the model declares and nothing else: no identifier, no place on the
canvas and no index that backs a primary key.  So it can be written for a declared schema as well,
and models that declare the same have the same text.
-/

namespace SchemaDiagram

open SchemaDiagram.Text SchemaText

variable {κ : Type}

/-- What a model declares. -/
def declaredBy (tables : List (Table κ)) (relationships : List Relationship) : DeclaredSchema :=
  ⟨tables.map Table.declared, relationships.filterMap (Relationship.declared? tables)⟩

/-- A model states a schema: it declares the tables of the schema, and each of its relationships
declares one of the schema. -/
structure DeclaredSchema.StatedBy (schema : DeclaredSchema) (live : List (Table κ))
    (linked : List Relationship) : Prop where
  tables : live.map Table.declared = schema.tables
  relationships : linked.map (Relationship.declared? live) = schema.relationships.map some

theorem DeclaredSchema.StatedBy.declaredBy_eq {schema : DeclaredSchema} {live : List (Table κ)}
    {linked : List Relationship} (h : schema.StatedBy live linked) :
    declaredBy live linked = schema := by
  have hlinks : linked.filterMap (Relationship.declared? live) = schema.relationships := by
    calc
      linked.filterMap (Relationship.declared? live)
          = (linked.map (Relationship.declared? live)).filterMap id := by
            rw [List.filterMap_map, Function.id_comp]
      _ = (schema.relationships.map some).filterMap id := by rw [h.relationships]
      _ = schema.relationships := by simp
  rw [declaredBy, h.tables, hlinks]

/-! ## Lines -/

def FieldDeclaration.tags (field : FieldDeclaration) : List (List Char) :=
  (if field.unique && !field.primaryKey then [word "unique"] else []) ++
  (if field.primaryKey then [word "primary key"] else []) ++
  (if field.nullable then [word "null"] else []) ++
  (field.comment.map (quotedTag "note")).toList

def FieldDeclaration.line (field : FieldDeclaration) : List Char :=
  field.name.toList ++ ' ' :: field.dataType.name.toList ++ bracketed field.tags

def IndexDeclaration.line (index : IndexDeclaration) : List Char :=
  '(' :: (joinWith (word ", ") (index.fields.map String.toList) ++
    ')' :: bracketed ((if index.unique then [word "unique"] else []) ++
      [quotedTag "name" index.name]))

def RelationshipDeclaration.line (relationship : RelationshipDeclaration) : List Char :=
  word "Rel " ++ relationship.name.toList ++ word ": " ++
    word relationship.sourceCardinality.mark ++
      ' ' :: (relationship.sourceTable.toList ++ '.' :: relationship.sourceField.toList) ++
    word ", " ++ word relationship.targetCardinality.mark ++
      ' ' :: (relationship.targetTable.toList ++ '.' :: relationship.targetField.toList)

/-- A primary key is unique, and that is not written in addition. -/
theorem Field.tags_declared (field : Field) : field.declared.tags = fieldTags field := by
  by_cases hkey : field.primaryKey = true
  · simp [FieldDeclaration.tags, Field.declared, fieldTags, hkey]
  · simp [FieldDeclaration.tags, Field.declared, fieldTags, hkey]

theorem Field.line_declared (field : Field) : field.declared.line = fieldLine field := by
  rw [FieldDeclaration.line, field.tags_declared]
  rfl

theorem indexLine?_eq_map (table : Table κ) (index : Index) :
    indexLine? table index = (index.declared? table).map IndexDeclaration.line := by
  rw [indexLine?_eq, Index.declared?]
  split
  · rfl
  · rfl

theorem relationshipLine?_eq_map (tables : List (Table κ)) (relationship : Relationship) :
    relationshipLine? tables relationship =
      (relationship.declared? tables).map RelationshipDeclaration.line := by
  rw [relationshipLine?, endText?, endText?, Relationship.declared?, ContentHash.ofRelationship?]
  cases ContentHash.endNames? tables relationship.source with
  | none => rfl
  | some source =>
      cases ContentHash.endNames? tables relationship.target with
      | none => rfl
      | some target => rfl

/-! ## Blocks -/

def TableDeclaration.text (table : TableDeclaration) : List Char :=
  word "Table " ++ table.name.toList ++ word " \x7b" ++
    '\n' :: (((table.comment.map fun comment =>
        indented 1 (quotedTag "Note" comment)).getD []) ++
      table.fields.flatMap (fun field => indented 1 field.line) ++
      indexBlock (table.indexes.map IndexDeclaration.line)) ++ ['\x7d']

/-- A declared schema as schema text. -/
def DeclaredSchema.text (schema : DeclaredSchema) : List Char :=
  let lines := schema.relationships.map RelationshipDeclaration.line
  joinWith ['\n', '\n'] (schema.tables.map TableDeclaration.text ++
    if lines.isEmpty then [] else [joinWith ['\n'] lines])

theorem Table.text_declared (table : Table κ) : table.declared.text = tableText table := by
  have hfields : table.declared.fields.flatMap (fun field => indented 1 field.line) =
      table.fields.flatMap fun field => indented 1 (fieldLine field) := by
    simp only [Table.declared, List.flatMap_map, Field.line_declared]
  have hindexes : table.declared.indexes.map IndexDeclaration.line = indexLines table := by
    simp only [Table.declared, indexLines, List.map_filterMap, indexLine?_eq_map]
  rw [TableDeclaration.text, hfields, hindexes]
  rfl

/-- The text of a model is that of the schema which it declares. -/
theorem generate_eq_text (tables : List (Table κ)) (relationships : List Relationship) :
    generate tables relationships = String.ofList (declaredBy tables relationships).text := by
  have htables : (tables.map Table.declared).map TableDeclaration.text = tables.map tableText := by
    simp only [List.map_map, Function.comp_def, Table.text_declared]
  have hlines : (relationships.filterMap (Relationship.declared? tables)).map
      RelationshipDeclaration.line = relationships.filterMap (relationshipLine? tables) := by
    simp only [List.map_filterMap, relationshipLine?_eq_map]
  rw [generate, generateChars, relationshipBlock, DeclaredSchema.text, declaredBy]
  dsimp only
  rw [htables, hlines]

end SchemaDiagram
