import SchemaDiagram.Proofs.Codec.Declaration
import SchemaDiagram.Proofs.Codec.Event
import SchemaDiagram.Proofs.Storage.Mirror
import SchemaDiagram.Storage.Document

/-!
# Written forms are read back

The document of a diagram holds the diagram, so importing what was exported stores the same diagram
again.  Identifiers and strings are read as they were written in any case, and times are if they are
regular; coordinates are taken to be.  Events and declared schemas hold no times and no coordinates,
so nothing needs to be said about them.
-/

namespace SchemaDiagram

section Forms

variable {κ : Type} [CoordinateCodec κ] [LawfulCoordinateCodec κ]

theorem Diagram.roundTrips {diagram : Diagram κ} (htimes : ∀ time ∈ diagram.times, time.ReadsBack)
    (hplaces : ∀ x ∈ diagram.coordinates, CoordinateCodec.ReadsBack x) :
    Json.RoundTrips Diagram.toJson Diagram.ofJson? diagram :=
  diagram.wellFormed_toJson.roundTrips (Diagram.ofJson?_toJson htimes hplaces)

namespace MemoryStorage

theorem diagramOfDocument?_documentOf {diagram : Diagram κ}
    (htimes : ∀ time ∈ diagram.times, time.ReadsBack)
    (hplaces : ∀ x ∈ diagram.coordinates, CoordinateCodec.ReadsBack x) :
    diagramOfDocument? (documentOf diagram) = some diagram := by
  rw [diagramOfDocument?, documentOf, String.toList_ofList]
  exact (Diagram.roundTrips htimes hplaces).pretty

/-- What is exported of a stored diagram can be imported anywhere and stores the diagram there. -/
theorem importDocument_exportDocument {storage : MemoryStorage κ} {id : Identifier}
    {diagram : Diagram κ} (hfound : storage.find? id = some diagram)
    (htimes : ∀ time ∈ diagram.times, time.ReadsBack)
    (hplaces : ∀ x ∈ diagram.coordinates, CoordinateCodec.ReadsBack x)
    (target : MemoryStorage κ) :
    ∃ document, storage.exportDocument id = .ok document ∧
      (target.importDocument document).1 = .ok id ∧
      (target.importDocument document).2.find? id = some diagram := by
  obtain rfl : diagram.id = id := by simpa using List.find?_some hfound
  refine ⟨documentOf diagram, ?_, ?_⟩
  · rw [exportDocument, getDiagram, hfound]
    rfl
  · rw [importDocument, diagramOfDocument?_documentOf htimes hplaces]
    exact ⟨rfl, target.find?_insert diagram⟩

end MemoryStorage

/-- Every JSON form is read back.  An exported diagram with finite coordinates is imported as the
same diagram, if its finite coordinates are read as they were written and its times are regular,
which is to say that they are read as they were written; events and declared schemas are decoded
from their forms. -/
theorem jsonForms_readBack [Coordinate κ] :
    (∀ (storage target : MemoryStorage κ) (id : Identifier) (diagram : Diagram κ),
      storage.find? id = some diagram →
      (∀ x ∈ diagram.coordinates, Coordinate.isFinite x = true) →
      (∀ x ∈ diagram.coordinates, Coordinate.isFinite x = true → CoordinateCodec.ReadsBack x) →
      (∀ time ∈ diagram.times, time.IsRegular) →
      ∃ document, storage.exportDocument id = .ok document ∧
        (target.importDocument document).1 = .ok id ∧
        (target.importDocument document).2.find? id = some diagram) ∧
    (∀ event : Event, Json.RoundTrips Event.toJson Event.ofJson? event) ∧
    ∀ schema : DeclaredSchema,
      Json.RoundTrips DeclaredSchema.toJson DeclaredSchema.ofJson? schema := by
  refine ⟨?_, fun event => ?_, fun schema => ?_⟩
  · intro storage target id diagram hfound hfinite hnumbers hregular
    have hplaces : ∀ x ∈ diagram.coordinates, CoordinateCodec.ReadsBack x :=
      fun x hx => hnumbers x hx (hfinite x hx)
    have htimes : ∀ time ∈ diagram.times, time.ReadsBack :=
      fun time htime => Timestamp.readsBack_iff.mpr (hregular time htime)
    exact MemoryStorage.importDocument_exportDocument hfound htimes hplaces target
  · exact event.wellFormed_toJson.roundTrips event.ofJson?_toJson
  · exact schema.wellFormed_toJson.roundTrips schema.ofJson?_toJson

end Forms

/-- A view and a table with a key, an index and a comment, linked in both ways. -/
def writtenDiagram : Diagram Float where
  id := Identifier.ofNat 1
  name := "shop \"north\""
  dialect := .postgreSql
  createdAt := ⟨1700000000, 0⟩
  updatedAt := ⟨1700000060, 123000000⟩
  tables := [
    { id := Identifier.ofNat 2
      name := "orders"
      schema := some "public"
      fields := [⟨Identifier.ofNat 3, "id", ⟨"integer", "integer"⟩, false, true, true,
        some "assigned by the shop\n", ⟨1700000001, 0⟩⟩]
      indexes := [⟨Identifier.ofNat 4, "orders_pk", true, [Identifier.ofNat 3], true,
        ⟨1700000002, 0⟩⟩]
      color := "#8eb7ff"
      x := 100
      y := -1.2
      isView := false
      comment := some "one row for each order"
      createdAt := ⟨1700000003, 0⟩ },
    { Table.new ⟨Identifier.ofNat 5, ⟨1700000004, 0⟩, "#ff6b8a"⟩ "open_orders" 420 0 with
      isView := true }]
  relationships := [⟨Identifier.ofNat 6, "follows", ⟨Identifier.ofNat 2, Identifier.ofNat 3, none⟩,
    ⟨Identifier.ofNat 2, Identifier.ofNat 3, some "public"⟩, .many, .one, ⟨1700000005, 0⟩⟩]
  dependencies := [⟨Identifier.ofNat 7, Identifier.ofNat 2, Identifier.ofNat 5, some "public", none,
    ⟨1700000006, 1⟩⟩]

/-- The document of a stored diagram is imported into an empty storage. -/
theorem jsonForms_readBack_writtenDiagram :
    (∀ x ∈ writtenDiagram.coordinates,
      Coordinate.isFinite x = true ∧ CoordinateCodec.ReadsBack x) ∧
    (∀ time ∈ writtenDiagram.times, time.IsRegular) ∧
    ∃ document,
      (MemoryStorage.empty.insert writtenDiagram).exportDocument (Identifier.ofNat 1) =
        .ok document ∧
      ((MemoryStorage.empty : MemoryStorage Float).importDocument document).1 =
        .ok (Identifier.ofNat 1) ∧
      ((MemoryStorage.empty : MemoryStorage Float).importDocument document).2.find?
        (Identifier.ofNat 1) = some writtenDiagram := by
  have hfinite : ∀ x ∈ writtenDiagram.coordinates, Coordinate.isFinite x = true := by
    decide +kernel
  have hplaces : ∀ x ∈ writtenDiagram.coordinates, CoordinateCodec.ReadsBack x := by
    unfold CoordinateCodec.ReadsBack
    decide +kernel
  have hregular : ∀ time ∈ writtenDiagram.times, time.IsRegular := by decide +kernel
  exact ⟨fun x hx => ⟨hfinite x hx, hplaces x hx⟩, hregular,
    jsonForms_readBack.1 (MemoryStorage.empty.insert writtenDiagram) MemoryStorage.empty _ _ rfl
      hfinite (fun x hx _ => hplaces x hx) hregular⟩

end SchemaDiagram
