import SchemaDiagram.Storage.Basic

/-!
# Storage in memory

Diagrams in a list, one for each identifier, with a switch that makes all writes fail.  A write
changes the stored diagram in place, and what it has changed by the time it fails is not taken back.
-/

namespace SchemaDiagram

/-- The stored diagrams, and whether writes are refused. -/
structure MemoryStorage (κ : Type) where
  diagrams : List (Diagram κ)
  writesDisabled : Bool

namespace MemoryStorage

variable {κ : Type}

def empty : MemoryStorage κ := ⟨[], false⟩

def find? (storage : MemoryStorage κ) (id : Identifier) : Option (Diagram κ) :=
  storage.diagrams.find? fun diagram => diagram.id == id

/-- Store a diagram in place of the one with the same identifier, or as a new one. -/
def insert (storage : MemoryStorage κ) (diagram : Diagram κ) : MemoryStorage κ :=
  { storage with
    diagrams :=
      if storage.diagrams.any fun other => other.id == diagram.id then
        updateFirst (fun other => other.id == diagram.id) (fun _ => diagram) storage.diagrams
      else storage.diagrams ++ [diagram] }

def setWritesDisabled (storage : MemoryStorage κ) (disabled : Bool) : MemoryStorage κ :=
  { storage with writesDisabled := disabled }

def getDiagram (storage : MemoryStorage κ) (id : Identifier) :
    Except StorageError (Diagram κ) :=
  match storage.find? id with
  | some diagram => .ok diagram
  | none => .error (.diagramNotFound id)

def getTable (storage : MemoryStorage κ) (diagramId id : Identifier) :
    Except StorageError (Table κ) := do
  let diagram ← storage.getDiagram diagramId
  match diagram.table? id with
  | some table => .ok table
  | none => .error (.entityNotFound .table id)

/-- Take out the diagram with an identifier; fail if there was none. -/
def remove (storage : MemoryStorage κ) (id : Identifier) :
    Except StorageError Unit × MemoryStorage κ :=
  let removed := storage.getDiagram id
  (removed.map fun _ => (),
    { storage with diagrams := storage.diagrams.filter fun other => other.id != id })

/-- Carry out a write on the stored diagram with an identifier, in place. -/
def writeWithin (storage : MemoryStorage κ) (id : Identifier) (write : DiagramWrite κ) :
    Except StorageError Unit × MemoryStorage κ :=
  match storage.find? id with
  | none => (.error (.diagramNotFound id), storage)
  | some diagram =>
    let (result, left) := write.apply diagram
    (result, { storage with
      diagrams := updateFirst (fun other => other.id == id) (fun _ => left) storage.diagrams })

/-- Write, unless writes are switched off. -/
def write (storage : MemoryStorage κ) (write : Write κ) :
    Except StorageError Unit × MemoryStorage κ :=
  if storage.writesDisabled then (.error (.unavailable "writes are disabled"), storage)
  else
    match write with
    | .addDiagram diagram => (.ok (), storage.insert diagram)
    | .deleteDiagram id => storage.remove id
    | .within id write => storage.writeWithin id write

/-- Whether one diagram stands in front of another one in a list: the one updated later, and of two
updated at the same time the one with the lower identifier. -/
def listedBefore (left right : DiagramSummary) : Bool :=
  if left.updatedAt = right.updatedAt then left.id.toNat ≤ right.id.toNat
  else right.updatedAt.notAfter left.updatedAt

/-- All diagrams, the latest update first. -/
def listDiagrams (storage : MemoryStorage κ) : List DiagramSummary :=
  (storage.diagrams.map Diagram.summary).mergeSort listedBefore

instance : Storage (MemoryStorage κ) κ where
  write := MemoryStorage.write
  getDiagram := MemoryStorage.getDiagram
  listDiagrams storage := .ok storage.listDiagrams

end MemoryStorage

end SchemaDiagram
