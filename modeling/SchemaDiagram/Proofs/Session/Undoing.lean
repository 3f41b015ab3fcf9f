import SchemaDiagram.Proofs.Session.Headed
import SchemaDiagram.Proofs.Session.Linked

/-!
# Undoing over a storage that fails

Every mutation changes the memory before it writes, but the mutations that undo one step stop at the
first write that fails.  A step that one mutation undoes is always undone in memory.  A removal of
tables is undone by putting the tables back first and then the links that went with them: if a write
fails before the last of these mutations, the rest of the links stays away, while the command counts
as undone.
-/

namespace SchemaDiagram

variable {σ τ κ : Type}

/-! ## Putting links back -/

/-- The number of relationships and dependencies of a diagram. -/
def Diagram.linkCount (diagram : Diagram κ) : Nat :=
  diagram.relationships.length + diagram.dependencies.length

/-- A mutation puts at least one link in. -/
def Mutation.AddsLinks : Mutation κ → Prop
  | insertRelationships entries => entries ≠ []
  | insertDependencies entries => entries ≠ []
  | _ => False

theorem length_insertPositioned {α : Type} (items : List α) (entries : List (Nat × α)) :
    (insertPositioned items entries).length = items.length + entries.length := by
  rw [(insertPositioned_perm items entries).length_eq, List.length_append, List.length_map]

namespace Mutation

theorem AddsLinks.linkCount_lt {mutation : Mutation κ} (h : mutation.AddsLinks)
    {before after : Diagram κ} (hleads : mutation.Leads before after) :
    before.linkCount < after.linkCount := by
  obtain ⟨change, hchange, rfl⟩ := hleads
  cases mutation with
  | insertRelationships entries =>
      obtain rfl := Except.ok.inj hchange
      have hpositive : 0 < entries.length := List.length_pos_iff.mpr h
      simp only [Diagram.linkCount, insertRelationshipsChange, length_insertPositioned]
      omega
  | insertDependencies entries =>
      obtain rfl := Except.ok.inj hchange
      have hpositive : 0 < entries.length := List.length_pos_iff.mpr h
      simp only [Diagram.linkCount, insertDependenciesChange, length_insertPositioned]
      omega
  | _ => exact h.elim

theorem linkCount_lt_of_leadsAll {mutations : List (Mutation κ)} (hsome : mutations ≠ [])
    (h : ∀ mutation ∈ mutations, mutation.AddsLinks) {before after : Diagram κ}
    (hleads : LeadsAll mutations before after) : before.linkCount < after.linkCount := by
  induction mutations generalizing before with
  | nil => exact absurd rfl hsome
  | cons mutation rest ih =>
      obtain ⟨between, hfirst, hrest⟩ := hleads
      have hlt := (h mutation List.mem_cons_self).linkCount_lt hfirst
      by_cases hlast : rest = []
      · subst hlast
        obtain rfl : between = after := hrest
        exact hlt
      · have hothers := ih hlast (fun other hother => h other (List.mem_cons_of_mem _ hother)) hrest
        omega

end Mutation

theorem DetachedLinks.addsLinks_restore (links : DetachedLinks) :
    ∀ mutation ∈ links.restore (κ := κ), mutation.AddsLinks := by
  intro mutation hmem
  rw [restore, List.mem_append] at hmem
  rcases hmem with hmem | hmem <;> split at hmem
  · exact absurd hmem List.not_mem_nil
  · next hsome =>
      obtain rfl := List.mem_singleton.mp hmem
      simpa [Mutation.AddsLinks] using hsome
  · exact absurd hmem List.not_mem_nil
  · next hsome =>
      obtain rfl := List.mem_singleton.mp hmem
      simpa [Mutation.AddsLinks] using hsome

/-- Behind the first mutation that undoes a step, each one puts links back. -/
theorem Step.addsLinks_undo_tail (step : Step κ) :
    ∀ mutation ∈ step.undo.tail, mutation.AddsLinks := by
  cases step with
  | removeTables tables links => exact links.addsLinks_restore
  | setTables before after links => exact links.addsLinks_restore
  | _ => exact fun _ hmem => absurd hmem List.not_mem_nil

namespace Workspace

variable [Storage σ κ]

/-! ## Mutations up to the first failure -/

/-- All of the mutations are carried out: the storage fails for none of them but the last one. -/
def CarriesOut (workspace : Workspace σ κ) : List (Mutation κ) → Prop
  | [] => True
  | [_] => True
  | mutation :: next :: rest =>
    (workspace.perform mutation false).1 = .ok () ∧
      (workspace.perform mutation false).2.CarriesOut (next :: rest)

theorem carriesOut_of_length_le_one (workspace : Workspace σ κ) {mutations : List (Mutation κ)}
    (h : mutations.length ≤ 1) : workspace.CarriesOut mutations := by
  cases mutations with
  | nil => exact trivial
  | cons mutation rest =>
      obtain rfl : rest = [] := by
        simp only [List.length_cons] at h
        exact List.eq_nil_of_length_eq_zero (by omega)
      exact trivial

theorem performUntilError_singleton (workspace : Workspace σ κ) (mutation : Mutation κ) :
    (workspace.performUntilError [mutation]).2 = (workspace.perform mutation false).2 := by
  simp only [performUntilError]
  obtain ⟨result, next⟩ := workspace.perform mutation false
  cases result <;> rfl

theorem performUntilError_of_ok {workspace : Workspace σ κ} {mutation : Mutation κ}
    (h : (workspace.perform mutation false).1 = .ok ()) (rest : List (Mutation κ)) :
    workspace.performUntilError (mutation :: rest) =
      (workspace.perform mutation false).2.performUntilError rest := by
  rw [performUntilError]
  generalize workspace.perform mutation false = answer at h
  obtain ⟨result, next⟩ := answer
  obtain rfl : result = .ok () := h
  rfl

theorem performUntilError_of_failure {workspace : Workspace σ κ} {mutation : Mutation κ}
    (h : (workspace.perform mutation false).1 ≠ .ok ()) (rest : List (Mutation κ)) :
    (workspace.performUntilError (mutation :: rest)).2 =
      (workspace.perform mutation false).2 := by
  rw [performUntilError]
  generalize workspace.perform mutation false = answer at h
  obtain ⟨result, next⟩ := answer
  cases result with
  | error error => rfl
  | ok _ => exact absurd rfl h

/-- Mutations stop where the storage fails, and those that are left would lead on.  The first one is
never left, since it changes the memory whatever becomes of its writes. -/
theorem exists_left_performUntilError {workspace : Workspace σ κ} {mutations : List (Mutation κ)}
    {before after : Diagram κ} {history : History (Step κ)}
    (hholds : workspace.Holds before history)
    (hleads : Mutation.LeadsAll mutations before after) :
    ∃ between left, (workspace.performUntilError mutations).2.Holds between history ∧
      Mutation.LeadsAll left between after ∧ left <:+ mutations.tail ∧
      (left = [] ↔ workspace.CarriesOut mutations) := by
  induction mutations generalizing workspace before with
  | nil => exact ⟨before, [], hholds, hleads, List.suffix_refl [], iff_of_true rfl trivial⟩
  | cons mutation rest ih =>
      obtain ⟨between, hfirst, hrest⟩ := hleads
      obtain ⟨hnext, -⟩ := hholds.perform hfirst
      cases rest with
      | nil =>
          rw [performUntilError_singleton]
          exact ⟨between, [], hnext, hrest, List.suffix_refl [], iff_of_true rfl trivial⟩
      | cons second others =>
          by_cases hok : (workspace.perform mutation false).1 = .ok ()
          · rw [performUntilError_of_ok hok]
            obtain ⟨stopped, left, hstopped, hleft, hsuffix, hnone⟩ := ih hnext hrest
            refine ⟨stopped, left, hstopped, hleft, hsuffix.trans (List.suffix_cons _ _), ?_⟩
            rw [hnone, CarriesOut, and_iff_right hok]
          · rw [performUntilError_of_failure hok]
            refine ⟨between, second :: others, hnext, hrest, List.suffix_refl _, ?_⟩
            exact iff_of_false (List.cons_ne_nil _ _) fun hcarries => hok hcarries.1

/-! ## Steps undone one after another -/

/-- The workspace after steps are undone one after another, the last write of each served or not. -/
def undoEach (workspace : Workspace σ κ) (steps : List (Step κ)) : Answer σ κ Unit :=
  workspace.runAll (steps.map fun step workspace => workspace.performUntilError step.undo)

/-- All mutations that undo the steps are carried out. -/
def UndoesAll (workspace : Workspace σ κ) : List (Step κ) → Prop
  | [] => True
  | step :: rest =>
    workspace.CarriesOut step.undo ∧ (workspace.performUntilError step.undo).2.UndoesAll rest

theorem undoEach_concat (workspace : Workspace σ κ) (steps : List (Step κ)) (step : Step κ) :
    (workspace.undoEach (steps ++ [step])).2 =
      ((workspace.undoEach steps).2.performUntilError step.undo).2 := by
  simp only [undoEach, List.map_append, List.map_cons, List.map_nil, runAll_append,
    runAll_singleton]

theorem undoesAll_concat {workspace : Workspace σ κ} {steps : List (Step κ)} {step : Step κ} :
    workspace.UndoesAll (steps ++ [step]) ↔
      workspace.UndoesAll steps ∧ (workspace.undoEach steps).2.CarriesOut step.undo := by
  induction steps generalizing workspace with
  | nil => simp only [List.nil_append, UndoesAll, undoEach, List.map_nil, runAll, and_comm]
  | cons first rest ih =>
      simp only [List.cons_append, UndoesAll, ih, and_assoc]
      rfl

/-- Whatever the storage answers, simple steps are undone. -/
theorem undoesAll_of_simple (workspace : Workspace σ κ) {steps : List (Step κ)}
    (h : ∀ step ∈ steps, step.Simple) : workspace.UndoesAll steps := by
  induction steps generalizing workspace with
  | nil => exact trivial
  | cons step rest ih =>
      constructor
      · exact workspace.carriesOut_of_length_le_one (h step List.mem_cons_self)
      · exact ih _ fun other hother => h other (List.mem_cons_of_mem _ hother)

/-- Steps that are undone completely lead back to where they came from. -/
theorem UndoesAll.holds {workspace : Workspace σ κ} {steps : List (Step κ)}
    {before after : Diagram κ} {history : History (Step κ)}
    (h : workspace.UndoesAll steps.reverse) (htrail : Step.Trail steps before after)
    (hholds : workspace.Holds after history) :
    (workspace.undoEach steps.reverse).2.Holds before history := by
  induction steps generalizing before with
  | nil =>
      obtain ⟨time, rfl⟩ := htrail
      exact holds_touched_iff.mp hholds
  | cons step rest ih =>
      obtain ⟨between, hstep, hrest⟩ := htrail
      rw [List.reverse_cons] at h ⊢
      obtain ⟨hothers, hlast⟩ := undoesAll_concat.mp h
      obtain ⟨reached, left, hreached, hleads, -, hnone⟩ := exists_left_performUntilError
        (holds_touched_iff.mpr (ih hothers hrest)) (hstep.back before.updatedAt)
      obtain rfl := hnone.mpr hlast
      obtain rfl : reached = before := hleads
      rw [undoEach_concat]
      exact hreached

/-- Of steps only the first of which is not simple, all are undone except for the links that went
with tables in the first one. -/
theorem exists_left_undoEach {workspace : Workspace σ κ} {steps : List (Step κ)}
    {before after : Diagram κ} {history : History (Step κ)} (hheaded : Step.Headed steps)
    (htrail : Step.Trail steps before after) (hholds : workspace.Holds after history) :
    ∃ between left, (workspace.undoEach steps.reverse).2.Holds between history ∧
      Mutation.LeadsAll left between before ∧ (∀ mutation ∈ left, mutation.AddsLinks) ∧
      (left = [] ↔ workspace.UndoesAll steps.reverse) := by
  cases steps with
  | nil =>
      have hnothing : workspace.UndoesAll ([] : List (Step κ)).reverse := trivial
      exact ⟨before, [], hnothing.holds htrail hholds, rfl,
        fun _ hmem => absurd hmem List.not_mem_nil, iff_of_true rfl hnothing⟩
  | cons step rest =>
      obtain ⟨between, hstep, hrest⟩ := htrail
      have hothers : workspace.UndoesAll rest.reverse :=
        workspace.undoesAll_of_simple fun other hother =>
          hheaded other (List.mem_reverse.mp hother)
      obtain ⟨reached, left, hreached, hleads, hsuffix, hnone⟩ := exists_left_performUntilError
        (holds_touched_iff.mpr (hothers.holds hrest hholds)) (hstep.back before.updatedAt)
      rw [List.reverse_cons, undoEach_concat, undoesAll_concat, and_iff_right hothers]
      exact ⟨reached, left, hreached, hleads,
        fun mutation hmem => step.addsLinks_undo_tail mutation (hsuffix.subset hmem), hnone⟩

/-! ## Undo -/

omit [Storage σ κ] in
/-- A timeline is about the memory, whatever the storage. -/
theorem OnTimeline.over {workspace : Workspace σ κ} {timeline : Timeline κ}
    (h : workspace.OnTimeline timeline) (storage : τ) :
    (⟨workspace.session, storage⟩ : Workspace τ κ).OnTimeline timeline :=
  ⟨h.diagram, h.idle, h.position, h.length, h.connects⟩

/-- What undo leaves of the last command, where `before` is the diagram from before it.  Some of the
links that went with tables may be missing in the diagram that is left.  None is missing exactly if
the storage fails in no mutation but the last one of those that undo a step. -/
structure UndoLeaves (workspace : Workspace σ κ) (rest : List (Command (Step κ)))
    (command : Command (Step κ)) (before between : Diagram κ) : Prop where
  stack : workspace.session.history.undoStack = rest ++ [command]
  history : workspace.undo.2.session.history =
    { workspace.session.history with
      undoStack := rest, redoStack := workspace.session.history.redoStack ++ [command] }
  diagram : workspace.undo.2.session.diagram? = some between
  missing : ∃ left : List (Mutation κ), (∀ mutation ∈ left, mutation.AddsLinks) ∧
    Mutation.LeadsAll left between before
  whole : between = before ↔
    (workspace.mapHistory fun history => { history with undoStack := rest }).UndoesAll
      command.action.steps.reverse
  served : Served workspace.undo.1 → between = before

/-- Undo over a storage that may answer each write as it likes: the command can be redone, and the
diagram from before it is back unless links that went with its tables are missing. -/
theorem Reached.undo_over [Coordinate κ] [Storage τ κ] {start workspace : Workspace σ κ}
    {timeline : Timeline κ} (h : start.Reached workspace timeline)
    (hposition : 0 < timeline.position) (storage : τ) :
    ∃ rest command before between, timeline.states[timeline.position - 1]? = some before ∧
      UndoLeaves (⟨workspace.session, storage⟩ : Workspace τ κ) rest command before between := by
  have hon := h.onTimeline.over storage
  have hcommands := h.headed.commands
  change ∀ command ∈ (⟨workspace.session, storage⟩ : Workspace τ κ).session.history.commands, _
    at hcommands
  generalize (⟨workspace.session, storage⟩ : Workspace τ κ) = failing at hon hcommands ⊢
  obtain ⟨rest, command, before, after, hstack, -, hpopped, hbefore, hpresent, hconnects⟩ :=
    hon.last_undo hposition
  have hheaded : Step.Headed command.action.steps :=
    hcommands command (List.mem_append_left _ (by simp [hstack]))
  have hopened : (failing.mapHistory fun history => { history with undoStack := rest }).Holds after
      { failing.session.history with undoStack := rest } := ⟨⟨after.updatedAt, hpresent⟩, rfl⟩
  obtain ⟨between, left, hbetween, hleads, hlinks, hnone⟩ :=
    exists_left_undoEach hheaded hconnects.trail hopened
  have hdiagram : failing.undo.2.session.diagram? = some (between.touched before.updatedAt) := by
    simp only [undo, hpopped, hconnects.undoUpdatedAt]
    exact (holds_touched_iff.mpr hbetween).restoreUpdatedAt.1
  have htouched := hleads.touched before.updatedAt
  have hsame : left = [] ↔ between.touched before.updatedAt = before := by
    constructor
    · rintro rfl
      exact htouched
    · intro hback
      by_contra hleft
      have hlt := Mutation.linkCount_lt_of_leadsAll hleft hlinks htouched
      rw [hback] at hlt
      exact Nat.lt_irrefl _ hlt
  refine ⟨rest, command, before, between.touched before.updatedAt, hbefore, ?_⟩
  constructor
  · exact hstack
  · exact undo_history hpopped
  · exact hdiagram
  · exact ⟨left, hlinks, htouched⟩
  · exact hsame.symm.trans hnone
  · intro hserved
    have hback := (hon.undo hserved).diagram
    exact Option.some.inj (hdiagram.symm.trans (hback.trans hbefore))

/-! ## A table that comes back without its link -/

/-- Two tables and a relationship, after the table that it starts from was removed. -/
def unlinkedTable : Workspace (MemoryStorage Float) Float :=
  Edit.run linkedTables (.mutate (.removeTables [Identifier.ofNat 2]))

theorem unlinkedTable_reached :
    ∃ timeline, opened.Reached unlinkedTable timeline ∧ 0 < timeline.position := by
  have hopened : opened.Reached opened ⟨[openedDiagram], 0⟩ := .loaded rfl rfl
  have hwritten : (linkedTables.session.diagram?.isSome) = true := by decide +kernel
  obtain ⟨linked, hlinked⟩ := Option.isSome_iff_exists.mp hwritten
  have hremoved : (unlinkedTable.session.diagram?.isSome) = true := by decide +kernel
  obtain ⟨unlinked, hunlinked⟩ := Option.isSome_iff_exists.mp hremoved
  refine ⟨_, .entered (.mutate (.removeTables [Identifier.ofNat 2]))
    (.entered (.applyText linkedText) hopened ?_ ?_ hlinked) (fun _ _ => trivial) ?_ hunlinked, ?_⟩
  · intro diagram hloaded
    obtain rfl := Option.some.inj hloaded
    exact .of_empty _ rfl rfl rfl
  · intro hsame
    have hlength := congrArg (fun history => history.undoStack.length) hsame
    revert hlength
    decide +kernel
  · intro hsame
    have hlength := congrArg (fun history => history.undoStack.length) hsame
    revert hlength
    decide +kernel
  · exact Nat.succ_pos _

/-- The same session over a storage that refuses every write. -/
def unlinkedRefusing : Workspace (MemoryStorage Float) Float :=
  ⟨unlinkedTable.session, unlinkedTable.storage.setWritesDisabled true⟩

theorem unlinkedRefusing_undo_over :
    ∃ timeline rest command before between, opened.Reached unlinkedTable timeline ∧
      timeline.states[timeline.position - 1]? = some before ∧
      unlinkedRefusing.UndoLeaves rest command before between := by
  obtain ⟨timeline, hreached, hposition⟩ := unlinkedTable_reached
  obtain ⟨rest, command, before, between, hbefore, hleaves⟩ :=
    hreached.undo_over hposition (unlinkedTable.storage.setWritesDisabled true)
  exact ⟨timeline, rest, command, before, between, hreached, hbefore, hleaves⟩

/-- With the storage that serves its writes the relationship comes back, and with the one that
refuses them it does not. -/
theorem unlinkedRefusing_undo_loses :
    (∃ timeline, opened.Reached unlinkedTable timeline ∧ 0 < timeline.position) ∧
      (unlinkedTable.undo.2.session.relationships.length = 1 ∧
        unlinkedTable.undo.1.isOk = true) ∧
      unlinkedRefusing.undo.2.session.tables.length = 2 ∧
      unlinkedRefusing.undo.2.session.relationships.length = 0 := by
  refine ⟨unlinkedTable_reached, ⟨?_, ?_⟩, ?_, ?_⟩ <;> decide +kernel

end Workspace

end SchemaDiagram
