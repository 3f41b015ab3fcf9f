import SchemaDiagram.Timestamp

/-!
# History

The log of commands that can be undone and redone.  Recording a command forgets what was undone.  A
group collects everything recorded while it is open into a single command.  The log works over any
type of steps; what a step does is not its concern.
-/

namespace SchemaDiagram

/-- What a command does: a single step, or several actions in order. -/
inductive Action (σ : Type) where
  | step (content : σ)
  | batch (actions : List (Action σ))

mutual

/-- The steps of an action in order, batches flattened. -/
def Action.steps {σ : Type} : Action σ → List σ
  | .step content => [content]
  | .batch actions => Action.stepsOfAll actions

def Action.stepsOfAll {σ : Type} : List (Action σ) → List σ
  | [] => []
  | action :: rest => action.steps ++ Action.stepsOfAll rest

end

/-- An action with the time of the last update before it and after it. -/
structure Command (σ : Type) where
  action : Action σ
  undoUpdatedAt : Timestamp
  redoUpdatedAt : Timestamp

/-- The actions collected so far by an open group, with the times around them. -/
structure Group (σ : Type) where
  actions : List (Action σ)
  bounds : Option (Timestamp × Timestamp)

/-- The commands that can be undone and redone, the latest one last, and the open group. -/
structure History (σ : Type) where
  undoStack : List (Command σ)
  redoStack : List (Command σ)
  group : Option (Group σ)

namespace Group

variable {σ : Type}

def add (group : Group σ) (action : Action σ) (before after : Timestamp) : Group σ where
  actions := group.actions ++ [action]
  bounds := some ((group.bounds.map Prod.fst).getD before, after)

/-- The command of a group: its only action, or a batch of all of them. -/
def command? (group : Group σ) : Option (Command σ) :=
  group.bounds.map fun (before, after) =>
    match group.actions with
    | [action] => ⟨action, before, after⟩
    | actions => ⟨.batch actions, before, after⟩

end Group

namespace History

variable {σ : Type}

def empty : History σ := ⟨[], [], none⟩

/-- Record a command outside of groups. -/
def push (history : History σ) (command : Command σ) : History σ :=
  { history with undoStack := history.undoStack ++ [command], redoStack := [] }

/-- Record an action that took the diagram from one time of update to another. -/
def record (history : History σ) (action : Action σ) (before after : Timestamp) : History σ :=
  match history.group with
  | some group => { history with group := some (group.add action before after) }
  | none => history.push ⟨action, before, after⟩

/-- Open a group, unless one is open already. -/
def beginGroup (history : History σ) : History σ :=
  match history.group with
  | some _ => history
  | none => { history with group := some ⟨[], none⟩ }

/-- Close the open group and record its command; an empty group records nothing. -/
def endGroup (history : History σ) : History σ :=
  match history.group with
  | none => history
  | some group =>
    let closed := { history with group := none }
    match group.command? with
    | some command => closed.push command
    | none => closed

/-- Take the latest command off a stack. -/
def popLast? {α : Type} (stack : List α) : Option (α × List α) :=
  stack.getLast?.map fun last => (last, stack.dropLast)

/-- Take the command to undo next off its stack. -/
def popUndo? (history : History σ) : Option (Command σ × History σ) :=
  (popLast? history.undoStack).map fun (command, rest) =>
    (command, { history with undoStack := rest })

/-- Take the command to redo next off its stack. -/
def popRedo? (history : History σ) : Option (Command σ × History σ) :=
  (popLast? history.redoStack).map fun (command, rest) =>
    (command, { history with redoStack := rest })

/-- Put a command that was redone back among those that can be undone. -/
def pushUndo (history : History σ) (command : Command σ) : History σ :=
  { history with undoStack := history.undoStack ++ [command] }

/-- Put a command that was undone among those that can be redone. -/
def pushRedo (history : History σ) (command : Command σ) : History σ :=
  { history with redoStack := history.redoStack ++ [command] }

def canUndo (history : History σ) : Bool :=
  !history.undoStack.isEmpty

def canRedo (history : History σ) : Bool :=
  !history.redoStack.isEmpty

end History

end SchemaDiagram
