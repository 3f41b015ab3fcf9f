import SchemaDiagram.Codec.Entity
import SchemaDiagram.Proofs.Codec.Record
import SchemaDiagram.Proofs.Identifier
import SchemaDiagram.Proofs.Timestamp

/-!
# Written entities

Every entity is read as it was written, as far as its times and coordinates are.  Its JSON form is
well-formed in any case, so the text of the form carries all of it.
-/

namespace SchemaDiagram

open Json

/-! ## Leaves -/

namespace Identifier

@[simp]
theorem ofJson?_toJson (id : Identifier) : ofJson? id.toJson = some id := by
  rw [ofJson?, toJson, string?, Option.bind_some, toText, String.toList_ofList, read?_write]

@[simp]
theorem wellFormed_toJson (id : Identifier) : id.toJson.WellFormed :=
  .string id.toText

end Identifier

namespace Timestamp

/-- A point in time that is read as it was written. -/
def ReadsBack (time : Timestamp) : Prop :=
  read? time.write = some time

/-- Exactly the regular points in time are read as they were written. -/
theorem readsBack_iff {time : Timestamp} : time.ReadsBack ↔ time.IsRegular :=
  read?_write_iff

theorem ofJson?_toJson {time : Timestamp} (h : time.ReadsBack) :
    ofJson? time.toJson = some time := by
  rw [ofJson?, toJson, string?, Option.bind_some, toText, String.toList_ofList, h]

@[simp]
theorem wellFormed_toJson (time : Timestamp) : time.toJson.WellFormed :=
  .string time.toText

end Timestamp

namespace Dialect

@[simp]
theorem ofJson?_toJson (dialect : Dialect) : ofJson? dialect.toJson = some dialect := by
  cases dialect <;> simp [ofJson?, toJson, caseName?, all, code]

@[simp]
theorem wellFormed_toJson (dialect : Dialect) : dialect.toJson.WellFormed :=
  .string dialect.code

end Dialect

namespace Cardinality

@[simp]
theorem ofJson?_toJson (cardinality : Cardinality) :
    ofJson? cardinality.toJson = some cardinality := by
  cases cardinality <;> simp [ofJson?, toJson, caseName?, code]

@[simp]
theorem wellFormed_toJson (cardinality : Cardinality) : cardinality.toJson.WellFormed :=
  .string cardinality.code

end Cardinality

/-! ## Records -/

namespace DataType

@[simp]
theorem ofJson?_toJson (type : DataType) : ofJson? type.toJson = some type := by
  have hnames : ["id", "name"].Nodup := by decide
  rw [ofJson?, toJson, members?_object hnames rfl]
  simp [-Option.bind_eq_bind, required?_cons, string?]

@[simp]
theorem wellFormed_toJson (type : DataType) : type.toJson.WellFormed :=
  .object (by simp)

end DataType

namespace Field

theorem ofJson?_toJson {field : Field} (htime : field.createdAt.ReadsBack) :
    ofJson? field.toJson = some field := by
  have hnames : memberNames.Nodup := by decide
  have hcreated := Timestamp.ofJson?_toJson htime
  rw [ofJson?, toJson, members?_object hnames rfl]
  simp [-Option.bind_eq_bind, required?_cons, optional?_cons, string?, bool?, hcreated]

@[simp]
theorem wellFormed_toJson (field : Field) : field.toJson.WellFormed :=
  .object (by simp)

end Field

namespace Index

theorem ofJson?_toJson {index : Index} (htime : index.createdAt.ReadsBack) :
    ofJson? index.toJson = some index := by
  have hnames : memberNames.Nodup := by decide
  have hfields : list? Identifier.ofJson? (ofList Identifier.toJson index.fieldIds) =
      some index.fieldIds :=
    list?_ofList fun id _ => id.ofJson?_toJson
  have hcreated := Timestamp.ofJson?_toJson htime
  rw [ofJson?, toJson, members?_object hnames rfl]
  simp [-Option.bind_eq_bind, required?_cons, defaulted?_cons, string?, bool?, hfields, hcreated]

@[simp]
theorem wellFormed_toJson (index : Index) : index.toJson.WellFormed :=
  .object (by simp)

end Index

namespace Endpoint

@[simp]
theorem ofJson?_toJson (endpoint : Endpoint) : ofJson? endpoint.toJson = some endpoint := by
  have hnames : ["tableId", "fieldId", "schema"].Nodup := by decide
  rw [ofJson?, toJson, members?_object hnames rfl]
  simp [-Option.bind_eq_bind, required?_cons, optional?_cons]

@[simp]
theorem wellFormed_toJson (endpoint : Endpoint) : endpoint.toJson.WellFormed :=
  .object (by simp)

end Endpoint

namespace Relationship

theorem ofJson?_toJson {relationship : Relationship} (htime : relationship.createdAt.ReadsBack) :
    ofJson? relationship.toJson = some relationship := by
  have hnames : memberNames.Nodup := by decide
  have hcreated := Timestamp.ofJson?_toJson htime
  rw [ofJson?, toJson, members?_object hnames rfl]
  simp [-Option.bind_eq_bind, required?_cons, string?, hcreated]

@[simp]
theorem wellFormed_toJson (relationship : Relationship) : relationship.toJson.WellFormed :=
  .object (by simp)

end Relationship

namespace Dependency

theorem ofJson?_toJson {dependency : Dependency} (htime : dependency.createdAt.ReadsBack) :
    ofJson? dependency.toJson = some dependency := by
  have hnames : memberNames.Nodup := by decide
  have hcreated := Timestamp.ofJson?_toJson htime
  rw [ofJson?, toJson, members?_object hnames rfl]
  simp [-Option.bind_eq_bind, required?_cons, optional?_cons, hcreated]

@[simp]
theorem wellFormed_toJson (dependency : Dependency) : dependency.toJson.WellFormed :=
  .object (by simp)

end Dependency

/-! ## Tables and diagrams -/

/-- Coordinates whose JSON form is always well-formed. -/
class LawfulCoordinateCodec (κ : Type) [CoordinateCodec κ] : Prop where
  wellFormed (x : κ) : (CoordinateCodec.toJson x).WellFormed

instance : LawfulCoordinateCodec Float where
  wellFormed := wellFormed_ofFloat

attribute [simp] LawfulCoordinateCodec.wellFormed

section Coordinates

variable {κ : Type} [CoordinateCodec κ]

/-- A coordinate that is read as it was written. -/
def CoordinateCodec.ReadsBack (x : κ) : Prop :=
  CoordinateCodec.ofJson? (CoordinateCodec.toJson x) = some x

namespace Table

/-- The times of a table and of its parts. -/
def times (table : Table κ) : List Timestamp :=
  table.createdAt :: (table.fields.map Field.createdAt ++ table.indexes.map Index.createdAt)

def coordinates (table : Table κ) : List κ :=
  [table.x, table.y]

theorem ofJson?_toJson {table : Table κ} (htimes : ∀ time ∈ table.times, time.ReadsBack)
    (hplace : ∀ x ∈ table.coordinates, CoordinateCodec.ReadsBack x) :
    ofJson? table.toJson = some table := by
  have hnames : memberNames.Nodup := by decide
  have hcreated := Timestamp.ofJson?_toJson (htimes table.createdAt List.mem_cons_self)
  have hfields : list? Field.ofJson? (ofList Field.toJson table.fields) = some table.fields :=
    list?_ofList fun field hfield => Field.ofJson?_toJson <| htimes _ <|
      List.mem_cons_of_mem _ (List.mem_append_left _ (List.mem_map_of_mem hfield))
  have hindexes : list? Index.ofJson? (ofList Index.toJson table.indexes) = some table.indexes :=
    list?_ofList fun index hindex => Index.ofJson?_toJson <| htimes _ <|
      List.mem_cons_of_mem _ (List.mem_append_right _ (List.mem_map_of_mem hindex))
  have hx : CoordinateCodec.ofJson? (CoordinateCodec.toJson table.x) = some table.x :=
    hplace table.x List.mem_cons_self
  have hy : CoordinateCodec.ofJson? (CoordinateCodec.toJson table.y) = some table.y :=
    hplace table.y (List.mem_cons_of_mem _ List.mem_cons_self)
  rw [ofJson?, toJson, members?_object hnames rfl]
  simp [-Option.bind_eq_bind, required?_cons, optional?_cons, string?, bool?, hcreated, hfields,
    hindexes, hx, hy]

@[simp]
theorem wellFormed_toJson [LawfulCoordinateCodec κ] (table : Table κ) : table.toJson.WellFormed :=
  .object (by simp)

end Table

namespace Diagram

/-- The times of a diagram and of everything in it. -/
def times (diagram : Diagram κ) : List Timestamp :=
  diagram.createdAt :: diagram.updatedAt :: (diagram.tables.flatMap Table.times ++
    (diagram.relationships.map Relationship.createdAt ++
      diagram.dependencies.map Dependency.createdAt))

def coordinates (diagram : Diagram κ) : List κ :=
  diagram.tables.flatMap Table.coordinates

theorem ofJson?_toJson {diagram : Diagram κ} (htimes : ∀ time ∈ diagram.times, time.ReadsBack)
    (hplaces : ∀ x ∈ diagram.coordinates, CoordinateCodec.ReadsBack x) :
    ofJson? diagram.toJson = some diagram := by
  have hnames : memberNames.Nodup := by decide
  simp only [times, List.mem_cons, List.mem_append, List.mem_flatMap, List.mem_map] at htimes
  simp only [coordinates, List.mem_flatMap] at hplaces
  have hcreated := Timestamp.ofJson?_toJson (htimes diagram.createdAt (.inl rfl))
  have hupdated := Timestamp.ofJson?_toJson (htimes diagram.updatedAt (.inr (.inl rfl)))
  have htables : list? Table.ofJson? (ofList Table.toJson diagram.tables) = some diagram.tables :=
    list?_ofList fun table htable => Table.ofJson?_toJson
      (fun time htime => htimes time (.inr (.inr (.inl ⟨table, htable, htime⟩))))
      (fun x hx => hplaces x ⟨table, htable, hx⟩)
  have hrelationships : list? Relationship.ofJson?
      (ofList Relationship.toJson diagram.relationships) = some diagram.relationships :=
    list?_ofList fun relationship h => Relationship.ofJson?_toJson
      (htimes _ (.inr (.inr (.inr (.inl ⟨relationship, h, rfl⟩)))))
  have hdependencies : list? Dependency.ofJson?
      (ofList Dependency.toJson diagram.dependencies) = some diagram.dependencies :=
    list?_ofList fun dependency h => Dependency.ofJson?_toJson
      (htimes _ (.inr (.inr (.inr (.inr ⟨dependency, h, rfl⟩)))))
  rw [ofJson?, toJson, members?_object hnames rfl]
  simp [-Option.bind_eq_bind, required?_cons, defaulted?_cons, string?, hcreated, hupdated,
    htables, hrelationships, hdependencies]

@[simp]
theorem wellFormed_toJson [LawfulCoordinateCodec κ] (diagram : Diagram κ) :
    diagram.toJson.WellFormed :=
  .object (by simp)

end Diagram

end Coordinates

end SchemaDiagram
