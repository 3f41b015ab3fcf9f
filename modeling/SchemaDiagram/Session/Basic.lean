import SchemaDiagram.Config
import SchemaDiagram.History
import SchemaDiagram.Layout
import SchemaDiagram.SchemaText.Generator
import SchemaDiagram.Session.Mutation

/-!
# Sessions

A session owns one loaded diagram with its history and announces every change.  The memory of a
session changes first and independently of the storage; what has to be written follows from it.
-/

namespace SchemaDiagram

/-- A loaded diagram, its history, and what surrounds it. -/
structure Session (κ : Type) where
  diagram? : Option (Diagram κ)
  history : History (Step κ)
  /-- The schemas asked for, by identifier. -/
  schemaFilter : Option (List String)
  bus : EventBus
  defaultDialect : Dialect
  layout : LayoutConfig κ
  supply : Supply

namespace Session

variable {κ : Type}

def new (config : Config) (layout : LayoutConfig κ) (supply : Supply) : Session κ where
  diagram? := none
  history := History.empty
  schemaFilter := none
  bus := EventBus.new config.eventCapacity
  defaultDialect := config.dialect
  layout := layout
  supply := supply

/-! ## Reading -/

/-- The dialect of the diagram, or of new diagrams if none is loaded. -/
def dialect (session : Session κ) : Dialect :=
  (session.diagram?.map Diagram.dialect).getD session.defaultDialect

def tables (session : Session κ) : List (Table κ) :=
  (session.diagram?.map Diagram.tables).getD []

def relationships (session : Session κ) : List Relationship :=
  (session.diagram?.map Diagram.relationships).getD []

def dependencies (session : Session κ) : List Dependency :=
  (session.diagram?.map Diagram.dependencies).getD []

def table? (session : Session κ) (id : Identifier) : Option (Table κ) :=
  session.diagram?.bind fun diagram => diagram.table? id

def relationship? (session : Session κ) (id : Identifier) : Option Relationship :=
  session.diagram?.bind fun diagram => diagram.relationship? id

def dependency? (session : Session κ) (id : Identifier) : Option Dependency :=
  session.diagram?.bind fun diagram => diagram.dependency? id

def schemaText (session : Session κ) : String :=
  SchemaText.generate session.tables session.relationships

/-! ## Changing -/

def emit (session : Session κ) (events : List Event) : Session κ :=
  { session with bus := session.bus.emit events }

/-- Use up stamps. -/
def draw (session : Session κ) (count : Nat) : Session κ :=
  { session with supply := session.supply.drop count }

/-- Make a diagram the loaded one, with a history and a filter of its own. -/
def load (session : Session κ) (diagram : Diagram κ) : Session κ :=
  { session with
    diagram? := some diagram
    history := History.empty
    schemaFilter := none }.emit [.diagramLoaded diagram.id]

/-- Record a step, if it is to be recorded. -/
def recordStep (session : Session κ) (record : Bool) (step : Step κ) (before after : Timestamp) :
    Session κ :=
  if record then { session with history := session.history.record (.step step) before after }
  else session

/-- Carry out a change: the diagram is updated at the time of the next stamp, the change is
announced and recorded, and the answer is what has to be written. -/
def commit (session : Session κ) (record : Bool) (before : Diagram κ) (change : Change κ) :
    Session κ × List (Write κ) :=
  let now := (session.supply.get 0).time
  let changed := { session.draw 1 with
    diagram? := some { change.diagram with updatedAt := now } }
  let update : DiagramUpdate := { name := change.newName, updatedAt := some now }
  (((changed.emit change.events).recordStep record change.step before.updatedAt now),
    (.updateDiagram update :: change.writes).map (.within before.id))

/-- Carry out a mutation in memory.  If it is refused, the session is left with the diagram that the
refusal leaves. -/
def mutate (session : Session κ) (mutation : Mutation κ) (record : Bool) :
    Except SessionError (List (Write κ)) × Session κ :=
  match session.diagram? with
  | none => (.error .noDiagramLoaded, session)
  | some diagram =>
    match mutation.change diagram with
    | .error refusal => (.error refusal.error, { session with diagram? := some refusal.diagram })
    | .ok change =>
      let (session, writes) := session.commit record diagram change
      (.ok writes, session)

end Session

end SchemaDiagram
