import SchemaDiagram.Codec.Entity
import SchemaDiagram.Codec.Event
import SchemaDiagram.EventBus
import SchemaDiagram.Session.Replay

/-!
# The JSON form of histories and deliveries

A batch of actions is an array.  How a step is written is left to the caller, so that a history can
be shown over any type of steps.
-/

namespace SchemaDiagram

variable {σ : Type}

mutual

/-- An action: a step as it is written, a batch as an array. -/
def Action.toJson (encode : σ → Json) : Action σ → Json
  | .step content => encode content
  | .batch actions => .array (Action.toJsonAll encode actions)

/-- Several actions in order. -/
def Action.toJsonAll (encode : σ → Json) : List (Action σ) → List Json
  | [] => []
  | action :: rest => action.toJson encode :: Action.toJsonAll encode rest

end

/-- A command as a record, given the kind of a step and how it is written. -/
def Command.toJson (kind : σ → StepKind) (encode : σ → Json) (command : Command σ) : Json :=
  let tag :=
    match command.action with
    | .step content => (kind content).tag
    | .batch _ => Action.tag (.batch [])
  .object [
    ("tag", .string tag),
    ("action", command.action.toJson encode),
    ("steps", Json.ofList encode command.action.steps),
    ("undoUpdatedAt", command.undoUpdatedAt.toJson),
    ("redoUpdatedAt", command.redoUpdatedAt.toJson)]

/-- The step kind whose tag, with a capital letter in front, is the given name. -/
def StepKind.ofTitle? (title : String) : Option StepKind :=
  all.find? fun kind =>
    match kind.tag.toList with
    | first :: rest => String.ofList (first.toUpper :: rest) == title
    | [] => false

/-- What a receiver gets, one item for each event; missed events are counted in front. -/
def Delivery.toJson (delivery : Delivery) : Json :=
  .array <|
    (if delivery.missed = 0 then []
      else [.object [("lagged", Json.ofInt delivery.missed)]]) ++
    delivery.events.map Event.toJson

end SchemaDiagram
