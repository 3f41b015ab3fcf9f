import SchemaDiagram.Codec.Entity
import SchemaDiagram.Json.Parser
import SchemaDiagram.Json.Printer
import SchemaDiagram.Storage.Memory

/-!
# Documents

A stored diagram can be exported as a JSON document, and a document can be imported in place of the
stored diagram with the same identifier.  Importing is no write in the sense of the switch that
makes writes fail.
-/

namespace SchemaDiagram.MemoryStorage

variable {κ : Type} [CoordinateCodec κ]

/-- The diagram that a document holds. -/
def diagramOfDocument? (document : String) : Option (Diagram κ) :=
  (Json.ofText? document.toList).bind Diagram.ofJson?

def documentOf (diagram : Diagram κ) : String :=
  String.ofList diagram.toJson.pretty

/-- Store the diagram of a document; the answer is its identifier. -/
def importDocument (storage : MemoryStorage κ) (document : String) :
    Except StorageError Identifier × MemoryStorage κ :=
  match diagramOfDocument? document with
  | some diagram => (.ok diagram.id, storage.insert diagram)
  | none => (.error .serialization, storage)

/-- The document of a stored diagram. -/
def exportDocument (storage : MemoryStorage κ) (id : Identifier) : Except StorageError String :=
  (storage.getDiagram id).map documentOf

end SchemaDiagram.MemoryStorage
