import SchemaDiagram.Session.Workspace

/-!
# The editor

An editor binds a schema text to a session.  Text edits change the model at once.  Changes of the
model made elsewhere are written back to the text, but only after the user has stopped typing for
the quiet window; until then they are remembered.
-/

namespace SchemaDiagram

/-- A text bound to a session.  Times are in milliseconds. -/
structure Editor where
  receiver : Receiver
  text : String
  lastEdit : Option Nat
  quietWindow : Nat
  /-- Whether a change made elsewhere has not been written to the text yet. -/
  modelChanged : Bool

namespace Editor

variable {σ κ : Type}

/-- An editor on the text of a session. -/
def attach (session : Session κ) (config : Config) : Editor where
  receiver := session.bus.subscribe
  text := session.schemaText
  lastEdit := none
  quietWindow := config.quietWindow
  modelChanged := false

/-- Whether the last edit is less than the quiet window ago. -/
def isTyping (editor : Editor) (now : Nat) : Bool :=
  editor.lastEdit.any fun time => now - time < editor.quietWindow

/-- Skip the events that wait. -/
def skipEvents (editor : Editor) (session : Session κ) : Editor :=
  { editor with receiver := session.bus.subscribe }

/-- Take note of the events that wait: they come from changes made elsewhere. -/
def noteEvents (editor : Editor) (session : Session κ) : Editor :=
  { editor.skipEvents session with
    modelChanged := editor.modelChanged || session.bus.hasPending editor.receiver }

/-- Make the model converge on an edited text.  The events of this edit do not count as changes made
elsewhere, also when it fails. -/
def textChanged [Storage σ κ] [Coordinate κ] (editor : Editor) (now : Nat) (text : String)
    (workspace : Workspace σ κ) : Editor × Answer σ κ (Plan κ) :=
  let edited := { editor.noteEvents workspace.session with text := text, lastEdit := some now }
  let (result, workspace) := workspace.applyText text
  (edited.skipEvents workspace.session, result, workspace)

/-- Write the model to the text unless the user is typing; the answer is the new text, if it is
another one. -/
def modelChange (editor : Editor) (now : Nat) (session : Session κ) : Option String × Editor :=
  if editor.isTyping now then (none, editor)
  else
    let text := session.schemaText
    if text = editor.text then (none, editor) else (some text, { editor with text := text })

/-- Write changes made elsewhere to the text once the user has stopped typing. -/
def sync (editor : Editor) (now : Nat) (session : Session κ) : Option String × Editor :=
  let noted := editor.noteEvents session
  if !noted.modelChanged || noted.isTyping now then (none, noted)
  else { noted with modelChanged := false }.modelChange now session

end Editor

end SchemaDiagram
