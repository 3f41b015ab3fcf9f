import SchemaDiagram.Editor
import SchemaDiagram.Proofs.Session.Announced

/-!
# Changes that wait for the editor

An editor shares its session with others.  A change made by others is pending until a sync finds it
while nobody types; the editor remembers it partly in a flag and partly in the events that it has
not read yet.  Over every run of typing, waiting, asking, syncing and changes made elsewhere, the
two together say exactly whether a change is pending, however few events the bus can hold, and the
editor's own edits leave no trace in either of them.

What is pending is said about the run alone, without looking into the editor.
-/

namespace SchemaDiagram

variable {σ κ : Type}

/-! ## Events that wait -/

/-- Events wait for a receiver exactly if it is told of an event when it reads, be it one that it
gets or one that it missed. -/
theorem EventBus.hasPending_iff_drain (bus : EventBus) (receiver : Receiver) :
    bus.hasPending receiver = true ↔
      0 < (bus.drain receiver).missed + (bus.drain receiver).events.length := by
  simp only [hasPending, drain, decide_eq_true_eq, List.length_drop]
  omega

theorem EventBus.hasPending_subscribe (bus : EventBus) : bus.hasPending bus.subscribe = false := by
  simp [hasPending, subscribe]

/-- Whoever is not ahead of the bus has something to read after an event. -/
theorem EventBus.hasPending_emit {bus : EventBus} {receiver : Receiver} {events : List Event}
    (hread : receiver.position ≤ bus.published.length) (hevents : events ≠ []) :
    (bus.emit events).hasPending receiver = true := by
  have hlength := List.length_pos_of_ne_nil hevents
  simp only [hasPending, emit, List.length_append, decide_eq_true_eq]
  omega

/-! ## Runs of an editor -/

/-- An editor, the session that it shares with others, and the time in milliseconds. -/
structure Desk (σ κ : Type) where
  editor : Editor
  workspace : Workspace σ κ
  now : Nat

/-- What can happen at a desk. -/
inductive Happening where
  /-- The user typed a text. -/
  | typed (text : String)
  /-- The editor was asked to write the model to its text. -/
  | asked
  /-- The editor was asked to write changes made elsewhere to its text. -/
  | synced
  | waited (milliseconds : Nat)
  /-- The session was changed elsewhere. -/
  | changed

namespace Happening

/-- The time since the user typed, if that has happened; the latest happening comes first. -/
def sinceTyped : List Happening → Option Nat
  | [] => none
  | typed _ :: _ => some 0
  | waited milliseconds :: earlier => (sinceTyped earlier).map (· + milliseconds)
  | _ :: earlier => sinceTyped earlier

/-- Whether the user typed within the quiet window. -/
def typing (window : Nat) (history : List Happening) : Bool :=
  (sinceTyped history).any (· < window)

/-- Whether the session was changed elsewhere since the beginning, or since the last sync that found
such a change while the user was not typing. -/
def pending (window : Nat) : List Happening → Bool
  | [] => false
  | changed :: _ => true
  | synced :: earlier => pending window earlier && typing window earlier
  | _ :: earlier => pending window earlier

end Happening

namespace Desk

variable [Storage σ κ] [Coordinate κ]

/-- What happens next.  Of a change made elsewhere nothing is known but that it publishes events. -/
inductive Turn : Desk σ κ → Happening → Desk σ κ → Prop
  | typed (desk : Desk σ κ) (text : String) :
      Turn desk (.typed text)
        { desk with
          editor := (desk.editor.textChanged desk.now text desk.workspace).1
          workspace := (desk.editor.textChanged desk.now text desk.workspace).2.2 }
  | asked (desk : Desk σ κ) :
      Turn desk .asked
        { desk with editor := (desk.editor.modelChange desk.now desk.workspace.session).2 }
  | synced (desk : Desk σ κ) :
      Turn desk .synced
        { desk with editor := (desk.editor.sync desk.now desk.workspace.session).2 }
  | waited (desk : Desk σ κ) (milliseconds : Nat) :
      Turn desk (.waited milliseconds) { desk with now := desk.now + milliseconds }
  | changed (desk : Desk σ κ) (workspace : Workspace σ κ) (events : List Event)
      (hevents : events ≠ [])
      (hbus : workspace.session.bus = desk.workspace.session.bus.emit events) :
      Turn desk .changed { desk with workspace := workspace }

/-- Every move of the session that publishes anything is a change made elsewhere. -/
theorem Turn.of_move {α : Type} {desk : Desk σ κ} (move : Move κ α)
    (hbus : (move.run desk.workspace).2.session.bus ≠ desk.workspace.session.bus) :
    Turn desk .changed { desk with workspace := (move.run desk.workspace).2 } := by
  obtain ⟨events, hevents, -⟩ := move.announces desk.workspace
  refine .changed desk _ events ?_ hevents
  rintro rfl
  rw [EventBus.emit, List.append_nil] at hevents
  exact hbus hevents

/-- The desks that come about after an editor was opened, with what has happened there. -/
inductive Run (config : Config) : List Happening → Desk σ κ → Prop
  | opened (workspace : Workspace σ κ) (now : Nat) :
      Run config [] ⟨Editor.attach workspace.session config, workspace, now⟩
  | next {history : List Happening} {desk after : Desk σ κ} {happening : Happening}
      (hrun : Run config history desk) (hturn : Turn desk happening after) :
      Run config (happening :: history) after

/-! ## What the editor remembers -/

/-- The editor knows when the user typed last, and its flag together with the events that it has not
read says whether a change is pending. -/
structure Remembers (quiet : Nat) (history : List Happening) (desk : Desk σ κ) : Prop where
  window : desk.editor.quietWindow = quiet
  edit : Option.Rel (fun time since => time + since = desk.now) desk.editor.lastEdit
    (Happening.sinceTyped history)
  read : desk.editor.receiver.position ≤ desk.workspace.session.bus.published.length
  changed : (desk.editor.modelChanged ||
    desk.workspace.session.bus.hasPending desk.editor.receiver) = Happening.pending quiet history

section Remembers

variable {quiet : Nat} {history : List Happening} {desk : Desk σ κ}

omit [Storage σ κ] [Coordinate κ]

theorem remembers_attach (config : Config) (workspace : Workspace σ κ) (now : Nat) :
    Remembers config.quietWindow [] ⟨Editor.attach workspace.session config, workspace, now⟩ where
  window := rfl
  edit := .none
  read := Nat.le_refl _
  changed := workspace.session.bus.hasPending_subscribe

theorem Remembers.isTyping (h : desk.Remembers quiet history) :
    desk.editor.isTyping desk.now = Happening.typing quiet history := by
  have hedit := h.edit
  rw [Editor.isTyping, Happening.typing, h.window]
  generalize desk.editor.lastEdit = edit, Happening.sinceTyped history = elapsed at hedit ⊢
  cases hedit with
  | none => rfl
  | some hsince =>
      simp only [Option.any_some, decide_eq_decide]
      omega

/-- Taking note of the events that wait moves them into the flag. -/
theorem Remembers.noteEvents (h : desk.Remembers quiet history) :
    desk.editor.noteEvents desk.workspace.session =
      { desk.editor.skipEvents desk.workspace.session with
        modelChanged := Happening.pending quiet history } := by
  rw [← h.changed]
  rfl

/-- While nothing is pending, or the user types, a sync only takes note of the events. -/
theorem Remembers.sync_of_waiting (h : desk.Remembers quiet history)
    (hwaiting : (Happening.pending quiet history && !Happening.typing quiet history) = false) :
    desk.editor.sync desk.now desk.workspace.session =
      (none, { desk.editor.skipEvents desk.workspace.session with
        modelChanged := Happening.pending quiet history }) := by
  have htyping : ({ desk.editor.skipEvents desk.workspace.session with
      modelChanged := Happening.pending quiet history } : Editor).isTyping desk.now =
        Happening.typing quiet history := h.isTyping
  simp only [Editor.sync, h.noteEvents, htyping]
  rw [if_pos]
  revert hwaiting
  cases Happening.pending quiet history <;> cases Happening.typing quiet history <;> decide

/-- Otherwise the text becomes that of the model, and nothing is pending any more. -/
theorem Remembers.sync_of_ready (h : desk.Remembers quiet history)
    (hready : (Happening.pending quiet history && !Happening.typing quiet history) = true) :
    desk.editor.sync desk.now desk.workspace.session =
      (if desk.workspace.session.schemaText = desk.editor.text then none
        else some desk.workspace.session.schemaText,
        { desk.editor.skipEvents desk.workspace.session with
          modelChanged := false
          text := desk.workspace.session.schemaText }) := by
  obtain ⟨hpending, hidle⟩ := Bool.and_eq_true_iff.mp hready
  have htyping : ∀ changed, ({ desk.editor.skipEvents desk.workspace.session with
      modelChanged := changed } : Editor).isTyping desk.now = false :=
    fun _ => h.isTyping.trans (by simpa using hidle)
  simp only [Editor.sync, h.noteEvents, htyping, hpending, Editor.modelChange]
  by_cases hsame : desk.workspace.session.schemaText = desk.editor.text
  · simp [hsame, Editor.skipEvents]
  · simp [hsame, Editor.skipEvents]

/-! ## One turn after another -/

theorem Remembers.waited (h : desk.Remembers quiet history) (milliseconds : Nat) :
    Remembers quiet (.waited milliseconds :: history)
      { desk with now := desk.now + milliseconds } where
  window := h.window
  edit := by
    have hedit := h.edit
    change Option.Rel _ desk.editor.lastEdit ((Happening.sinceTyped history).map _)
    generalize desk.editor.lastEdit = edit, Happening.sinceTyped history = elapsed at hedit ⊢
    cases hedit with
    | none => exact .none
    | some hsince =>
        refine .some ?_
        dsimp only
        omega
  read := h.read
  changed := h.changed

theorem Remembers.changedElsewhere (h : desk.Remembers quiet history) {workspace : Workspace σ κ}
    {events : List Event} (hevents : events ≠ [])
    (hbus : workspace.session.bus = desk.workspace.session.bus.emit events) :
    Remembers quiet (.changed :: history) { desk with workspace := workspace } where
  window := h.window
  edit := h.edit
  read := by
    dsimp only
    rw [hbus, EventBus.emit, List.length_append]
    exact Nat.le_add_right_of_le h.read
  changed := by
    dsimp only
    rw [hbus, EventBus.hasPending_emit h.read hevents, Bool.or_true]
    rfl

theorem Remembers.asked (h : desk.Remembers quiet history) :
    Remembers quiet (.asked :: history)
      { desk with editor := (desk.editor.modelChange desk.now desk.workspace.session).2 } := by
  have hkept : ∃ text, (desk.editor.modelChange desk.now desk.workspace.session).2 =
      { desk.editor with text := text } := by
    unfold Editor.modelChange
    split
    · exact ⟨desk.editor.text, rfl⟩
    · dsimp only
      split
      · exact ⟨desk.editor.text, rfl⟩
      · exact ⟨_, rfl⟩
  obtain ⟨text, htext⟩ := hkept
  rw [htext]
  exact ⟨h.window, h.edit, h.read, h.changed⟩

theorem Remembers.synced (h : desk.Remembers quiet history) :
    Remembers quiet (.synced :: history)
      { desk with editor := (desk.editor.sync desk.now desk.workspace.session).2 } := by
  have hnone := desk.workspace.session.bus.hasPending_subscribe
  cases hready : Happening.pending quiet history && !Happening.typing quiet history with
  | false =>
      rw [h.sync_of_waiting hready]
      refine ⟨h.window, h.edit, Nat.le_refl _, ?_⟩
      change (Happening.pending quiet history || desk.workspace.session.bus.hasPending
        desk.workspace.session.bus.subscribe) =
          (Happening.pending quiet history && Happening.typing quiet history)
      rw [hnone, Bool.or_false]
      revert hready
      cases Happening.pending quiet history <;> cases Happening.typing quiet history <;> decide
  | true =>
      rw [h.sync_of_ready hready]
      refine ⟨h.window, h.edit, Nat.le_refl _, ?_⟩
      change (false || desk.workspace.session.bus.hasPending
        desk.workspace.session.bus.subscribe) =
          (Happening.pending quiet history && Happening.typing quiet history)
      rw [hnone, Bool.or_false]
      revert hready
      cases Happening.pending quiet history <;> cases Happening.typing quiet history <;> decide

end Remembers

/-- The events of an edit are skipped, also when it fails. -/
theorem Remembers.textChanged {quiet : Nat} {history : List Happening} {desk : Desk σ κ}
    (h : desk.Remembers quiet history) (text : String) :
    let answer := desk.editor.textChanged desk.now text desk.workspace
    answer.1.modelChanged = Happening.pending quiet history ∧
      answer.2.2.session.bus.hasPending answer.1.receiver = false :=
  ⟨h.changed, EventBus.hasPending_subscribe _⟩

theorem Remembers.typed {quiet : Nat} {history : List Happening} {desk : Desk σ κ}
    (h : desk.Remembers quiet history) (text : String) :
    Remembers quiet (.typed text :: history)
      { desk with
        editor := (desk.editor.textChanged desk.now text desk.workspace).1
        workspace := (desk.editor.textChanged desk.now text desk.workspace).2.2 } := by
  obtain ⟨hchanged, hnone⟩ := h.textChanged text
  refine ⟨h.window, .some (Nat.add_zero _), Nat.le_refl _, ?_⟩
  dsimp only
  rw [hchanged, hnone, Bool.or_false]
  rfl

theorem Turn.remembers {quiet : Nat} {history : List Happening} {desk after : Desk σ κ}
    {happening : Happening} (hturn : Turn desk happening after)
    (h : desk.Remembers quiet history) : after.Remembers quiet (happening :: history) := by
  cases hturn with
  | typed text => exact h.typed text
  | asked => exact h.asked
  | synced => exact h.synced
  | waited milliseconds => exact h.waited milliseconds
  | changed workspace events hevents hbus => exact h.changedElsewhere hevents hbus

theorem Run.remembers {config : Config} {history : List Happening} {desk : Desk σ κ}
    (h : Run config history desk) : desk.Remembers config.quietWindow history := by
  induction h with
  | opened workspace now => exact remembers_attach config workspace now
  | next _ hturn ih => exact hturn.remembers ih

/-! ## What the editor does -/

/-- How an editor treats the changes that were made elsewhere, and the text of its user. -/
structure Heeds (quiet : Nat) (history : List Happening) (desk : Desk σ κ) : Prop where
  heard : Happening.pending quiet history = true ↔ desk.editor.modelChanged = true ∨
    let delivery := desk.workspace.session.bus.drain desk.editor.receiver
    0 < delivery.missed + delivery.events.length
  sync_iff : ∀ text, (desk.editor.sync desk.now desk.workspace.session).1 = some text ↔
    Happening.pending quiet history = true ∧ Happening.typing quiet history = false ∧
      desk.workspace.session.schemaText ≠ desk.editor.text ∧
        text = desk.workspace.session.schemaText
  sync_text : (desk.editor.sync desk.now desk.workspace.session).2.text =
    ((desk.editor.sync desk.now desk.workspace.session).1).getD desk.editor.text
  asked : Happening.typing quiet history = true →
    desk.editor.modelChange desk.now desk.workspace.session = (none, desk.editor)
  edited : ∀ text,
    let answer := desk.editor.textChanged desk.now text desk.workspace
    answer.1.modelChanged = Happening.pending quiet history ∧
      answer.2.2.session.bus.hasPending answer.1.receiver = false

/-- At every moment of every run, a sync answers with the text of the model exactly if a change made
elsewhere is pending, the user has not typed within the quiet window and the text is another one,
and in all other cases it leaves the text alone; while the user types, asking leaves it alone as
well.  An edit of the user, applied or not, leaves pending what was pending and nothing else.
Whether a change is pending, the editor learns from its flag and from a delivery that may miss
events. -/
theorem Run.heeds {config : Config} {history : List Happening} {desk : Desk σ κ}
    (h : Run config history desk) : desk.Heeds config.quietWindow history := by
  have hremembers := h.remembers
  constructor
  · rw [← hremembers.changed, Bool.or_eq_true, EventBus.hasPending_iff_drain]
  · intro text
    cases hready : Happening.pending config.quietWindow history &&
        !Happening.typing config.quietWindow history with
    | false =>
        rw [hremembers.sync_of_waiting hready]
        constructor
        · exact fun hnone => absurd hnone (Option.some_ne_none text).symm
        · rintro ⟨hpending, hidle, -⟩
          simp [hpending, hidle] at hready
    | true =>
        obtain ⟨hpending, hidle⟩ := Bool.and_eq_true_iff.mp hready
        rw [hremembers.sync_of_ready hready]
        by_cases hsame : desk.workspace.session.schemaText = desk.editor.text
        · simp [hsame]
        · simp [hsame, hpending, by simpa using hidle, eq_comm]
  · cases hready : Happening.pending config.quietWindow history &&
        !Happening.typing config.quietWindow history with
    | false =>
        rw [hremembers.sync_of_waiting hready]
        rfl
    | true =>
        rw [hremembers.sync_of_ready hready]
        dsimp only
        split
        · next hsame => exact hsame
        · rfl
  · intro htyping
    rw [Editor.modelChange, hremembers.isTyping, htyping, if_pos rfl]
  · exact hremembers.textChanged

/-! ## Two changes while the user types -/

/-- A session with a bus that holds a single event. -/
def narrow : Workspace (MemoryStorage Float) Float :=
  { Workspace.opened with
    session := { Workspace.opened.session with bus := EventBus.new 1 } }

/-- The user types a text without tables. -/
def typedDesk : Desk (MemoryStorage Float) Float :=
  let typed := (Editor.attach narrow.session Config.standard).textChanged 0 "// none" narrow
  ⟨typed.1, typed.2.2, 0⟩

/-- Somebody else makes a table. -/
def withNewTable (desk : Desk (MemoryStorage Float) Float) : Desk (MemoryStorage Float) Float :=
  { desk with workspace := (desk.workspace.createTable {}).2 }

/-- Two tables are made while the user types, of which the editor receives one event. -/
def narrowDesk : Desk (MemoryStorage Float) Float :=
  { withNewTable (withNewTable typedDesk) with now := 1000 }

theorem narrowDesk_run :
    Run Config.standard [.waited 1000, .changed, .changed, .typed "// none"] narrowDesk := by
  have hopened : Run Config.standard []
      ⟨Editor.attach narrow.session Config.standard, narrow, 0⟩ := .opened narrow 0
  have htyped : Run Config.standard [.typed "// none"] typedDesk := hopened.next (.typed _ _)
  have hfirst : Turn typedDesk .changed (withNewTable typedDesk) := by
    apply Turn.of_move (.forward (.createTable {}))
    intro hsame
    have hlength := congrArg (fun bus => bus.published.length) hsame
    revert hlength
    decide +kernel
  have hsecond : Turn (withNewTable typedDesk) .changed
      (withNewTable (withNewTable typedDesk)) := by
    apply Turn.of_move (.forward (.createTable {}))
    intro hsame
    have hlength := congrArg (fun bus => bus.published.length) hsame
    revert hlength
    decide +kernel
  exact ((htyped.next hfirst).next hsecond).next (.waited _ 1000)

/-- The next sync shows both of them. -/
theorem narrowDesk_heeds :
    narrowDesk.Heeds 1000 [.waited 1000, .changed, .changed, .typed "// none"] ∧
      (narrowDesk.workspace.session.bus.drain narrowDesk.editor.receiver).missed = 1 ∧
      (narrowDesk.editor.sync narrowDesk.now narrowDesk.workspace.session).1 =
        some narrowDesk.workspace.session.schemaText := by
  have hheeds := narrowDesk_run.heeds
  refine ⟨hheeds, by decide +kernel, ?_⟩
  rw [hheeds.sync_iff]
  exact ⟨rfl, rfl, by decide +kernel, rfl⟩

end Desk

end SchemaDiagram
