import SchemaDiagram.Codec.Declaration
import SchemaDiagram.Proofs.Codec.Entity

/-!
# Written declarations

Every declared schema is read as it was written, and its JSON form is well-formed.
-/

namespace SchemaDiagram

open Json

namespace ContentHash

@[simp]
theorem ofJson?_toJson (hash : Int32) : ofJson? (toJson hash) = some hash := by
  have hlow : Int32.minValue.toInt ≤ hash.toInt := hash.minValue_le_toInt
  have hhigh : hash.toInt ≤ Int32.maxValue.toInt := hash.toInt_le
  rw [ofJson?, toJson, int?_ofInt hlow hhigh, Option.map_some, Int32.ofInt_toInt]

@[simp]
theorem wellFormed_toJson (hash : Int32) : (toJson hash).WellFormed :=
  wellFormed_ofInt hash.toInt

end ContentHash

@[simp]
theorem Identifier.option?_ofOption_toJson (id : Option Identifier) :
    option? Identifier.ofJson? (ofOption Identifier.toJson id) = some id :=
  option?_ofOption (fun _ => Json.noConfusion) Identifier.ofJson?_toJson id

namespace FieldDeclaration

@[simp]
theorem ofJson?_toJson (field : FieldDeclaration) : ofJson? field.toJson = some field := by
  have hnames : memberNames.Nodup := by decide
  rw [ofJson?, toJson, members?_object hnames rfl]
  simp [-Option.bind_eq_bind, required?_cons, optional?_cons, string?, bool?]

@[simp]
theorem wellFormed_toJson (field : FieldDeclaration) : field.toJson.WellFormed :=
  .object (by simp)

end FieldDeclaration

namespace IndexDeclaration

@[simp]
theorem ofJson?_toJson (index : IndexDeclaration) : ofJson? index.toJson = some index := by
  have hnames : ["name", "unique", "fields"].Nodup := by decide
  have hfields : list? string? (ofList Json.string index.fields) = some index.fields :=
    list?_ofList fun _ _ => rfl
  rw [ofJson?, toJson, members?_object hnames rfl]
  simp [-Option.bind_eq_bind, required?_cons, string?, bool?, hfields]

@[simp]
theorem wellFormed_toJson (index : IndexDeclaration) : index.toJson.WellFormed :=
  .object (by simp)

end IndexDeclaration

namespace TableDeclaration

@[simp]
theorem ofJson?_toJson (table : TableDeclaration) : ofJson? table.toJson = some table := by
  have hnames : memberNames.Nodup := by decide
  have hfields : list? FieldDeclaration.ofJson? (ofList FieldDeclaration.toJson table.fields) =
      some table.fields :=
    list?_ofList fun field _ => field.ofJson?_toJson
  have hindexes : list? IndexDeclaration.ofJson?
      (ofList IndexDeclaration.toJson table.indexes) = some table.indexes :=
    list?_ofList fun index _ => index.ofJson?_toJson
  rw [ofJson?, toJson, members?_object hnames rfl]
  simp [-Option.bind_eq_bind, required?_cons, optional?_cons, string?, hfields, hindexes]

@[simp]
theorem wellFormed_toJson (table : TableDeclaration) : table.toJson.WellFormed :=
  .object (by simp)

end TableDeclaration

namespace RelationshipDeclaration

@[simp]
theorem ofJson?_toJson (relationship : RelationshipDeclaration) :
    ofJson? relationship.toJson = some relationship := by
  have hnames : memberNames.Nodup := by decide
  rw [ofJson?, toJson, members?_object hnames rfl]
  simp [-Option.bind_eq_bind, required?_cons, optional?_cons, string?]

@[simp]
theorem wellFormed_toJson (relationship : RelationshipDeclaration) :
    relationship.toJson.WellFormed :=
  .object (by simp)

end RelationshipDeclaration

namespace DeclaredSchema

theorem ofJson?_toJson (schema : DeclaredSchema) : ofJson? schema.toJson = some schema := by
  have hnames : ["tables", "relationships"].Nodup := by decide
  have htables : list? TableDeclaration.ofJson? (ofList TableDeclaration.toJson schema.tables) =
      some schema.tables :=
    list?_ofList fun table _ => table.ofJson?_toJson
  have hrelationships : list? RelationshipDeclaration.ofJson?
      (ofList RelationshipDeclaration.toJson schema.relationships) = some schema.relationships :=
    list?_ofList fun relationship _ => relationship.ofJson?_toJson
  rw [ofJson?, toJson, members?_object hnames rfl]
  simp [-Option.bind_eq_bind, required?_cons, htables, hrelationships]

theorem wellFormed_toJson (schema : DeclaredSchema) : schema.toJson.WellFormed :=
  .object (by simp)

end DeclaredSchema

end SchemaDiagram
