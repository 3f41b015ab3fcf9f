import SchemaDiagram.Proofs.Session.Timeline
import SchemaDiagram.Proofs.Storage.Mirror

/-!
# Sessions in step with their storage

A session is in step with a storage in memory that serves writes if what is stored mirrors the
loaded diagram.  As long as identifiers are distinct, a mutation keeps the two in step.  Undoing and
redoing are mutations as well, and the diagrams between those of the timeline have distinct
identifiers too.
-/

namespace SchemaDiagram

variable {κ : Type}

/-! ## Distinct identifiers along a trail -/

namespace Mutation

/-- The header of a diagram after a change that is carried out at some time. -/
theorem Effect.summary {diagram : Diagram κ} {mutation : Mutation κ} {change : Change κ}
    (h : mutation.Effect diagram change) (time : Timestamp) :
    (change.diagram.touched time).summary =
      (diagram.applyUpdate { name := change.newName, updatedAt := some time }).summary := by
  cases h <;> simp only [*] <;> rfl

/-- A mutation that puts links back. -/
def PutsLinksBack : Mutation κ → Prop
  | insertRelationships _ | insertDependencies _ => True
  | _ => False

/-- Putting links back brings no diagram with distinct identifiers about, unless there was one
before. -/
theorem PutsLinksBack.distinct {mutation : Mutation κ} (h : mutation.PutsLinksBack)
    {before after : Diagram κ} (hleads : mutation.Leads before after) (hafter : after.Distinct) :
    before.Distinct := by
  obtain ⟨change, hchange, rfl⟩ := hleads
  have hleft : ∀ {α : Type} {key : α → Identifier} {placed old new : List α},
      placed.Perm (old ++ new) → (placed.map key).Nodup → (old.map key).Nodup := by
    intro α key placed old new hplaced hnodup
    exact nodup_of_perm_append (hplaced.trans List.perm_append_comm) hnodup
  cases mutation with
  | insertRelationships entries =>
      obtain rfl := Except.ok.inj hchange
      exact ⟨hafter.tables, hleft (insertPositioned_perm _ _) hafter.relationships,
        hafter.dependencies⟩
  | insertDependencies entries =>
      obtain rfl := Except.ok.inj hchange
      exact ⟨hafter.tables, hafter.relationships,
        hleft (insertPositioned_perm _ _) hafter.dependencies⟩
  | _ => exact h.elim

theorem distinct_of_leadsAll {mutations : List (Mutation κ)}
    (h : ∀ mutation ∈ mutations, mutation.PutsLinksBack) {before after : Diagram κ}
    (hleads : LeadsAll mutations before after) (hafter : after.Distinct) : before.Distinct := by
  induction mutations generalizing before with
  | nil =>
      obtain rfl : before = after := hleads
      exact hafter
  | cons mutation rest ih =>
      obtain ⟨between, hfirst, hrest⟩ := hleads
      have hbetween := ih (fun other hother => h other (List.mem_cons_of_mem _ hother)) hrest
      exact (h mutation List.mem_cons_self).distinct hfirst hbetween

end Mutation

theorem DetachedLinks.putsLinksBack_restore (links : DetachedLinks) :
    ∀ mutation ∈ links.restore (κ := κ), mutation.PutsLinksBack := by
  intro mutation hmem
  rw [restore, List.mem_append] at hmem
  rcases hmem with hmem | hmem <;> split at hmem
  · exact absurd hmem List.not_mem_nil
  · obtain rfl := List.mem_singleton.mp hmem
    trivial
  · exact absurd hmem List.not_mem_nil
  · obtain rfl := List.mem_singleton.mp hmem
    trivial

namespace Step

/-- A step is undone by one mutation, after which only links are put back. -/
theorem putsLinksBack_undo_tail (step : Step κ) :
    ∀ mutation ∈ step.undo.tail, mutation.PutsLinksBack := by
  cases step with
  | removeTables tables links => exact links.putsLinksBack_restore
  | setTables before after links => exact links.putsLinksBack_restore
  | _ => exact fun _ hmem => absurd hmem List.not_mem_nil

theorem nodup_append_of_filter {α : Type} {key : α → Identifier} {old new : List α}
    (kept : List α) (hkept : old = kept.filter fun item => !(new.map key).contains (key item))
    (hold : (old.map key).Nodup) (hnew : (new.map key).Nodup) :
    ((old ++ new).map key).Nodup := by
  rw [List.map_append, List.nodup_append]
  refine ⟨hold, hnew, ?_⟩
  intro id hid other hother
  obtain ⟨item, hitem, rfl⟩ := List.mem_map.mp hid
  rw [hkept, List.mem_filter] at hitem
  rintro rfl
  simp [hother] at hitem

/-- A step that connects two diagrams brings nothing whose identifier is in use in the first one:
undoing it would take that away as well. -/
theorem Connects.bringsNew {step : Step κ} {before after : Diagram κ}
    (h : step.Connects before after) (hstep : step.BringsDistinct) (hbefore : before.Distinct) :
    step.redo.BringsNew before := by
  have hback := h.back before.updatedAt
  cases step with
  | addTables tables =>
      obtain ⟨between, ⟨change, hchange, rfl⟩, hsame⟩ := hback
      rw [(Mutation.removeTablesChange_eq_ok hchange).1] at hsame
      refine nodup_append_of_filter after.tables ?_ hbefore.tables hstep
      have htables := congrArg Diagram.tables hsame
      rw [Mutation.withoutTables, takePositioned_snd] at htables
      exact htables.symm
  | setTables before after links => exact hstep
  | addRelationships relationships =>
      obtain ⟨between, ⟨change, hchange, rfl⟩, hsame⟩ := hback
      rw [(Mutation.removeRelationshipsChange_eq_ok hchange).1] at hsame
      refine nodup_append_of_filter after.relationships ?_ hbefore.relationships hstep
      have hrelationships := congrArg Diagram.relationships hsame
      rw [takePositioned_snd] at hrelationships
      exact hrelationships.symm
  | addDependencies dependencies =>
      obtain ⟨between, ⟨change, hchange, rfl⟩, hsame⟩ := hback
      rw [(Mutation.removeDependenciesChange_eq_ok hchange).1] at hsame
      refine nodup_append_of_filter after.dependencies ?_ hbefore.dependencies hstep
      have hdependencies := congrArg Diagram.dependencies hsame
      rw [takePositioned_snd] at hdependencies
      exact hdependencies.symm
  | _ => trivial

/-- Identifiers stay distinct across a step. -/
theorem Connects.distinct {step : Step κ} {before after : Diagram κ}
    (h : step.Connects before after) (hstep : step.BringsDistinct) (hbefore : before.Distinct) :
    after.Distinct := by
  obtain ⟨change, hchange, hafter⟩ := h.forth before.updatedAt
  have hdistinct := (Mutation.change_effect hchange).distinct hbefore
    (h.bringsNew hstep hbefore)
  rwa [hafter, Diagram.distinct_touched] at hdistinct

end Step

/-! ## In step -/

/-- The header of a diagram is updated alike wherever the diagram is kept. -/
theorem Diagram.Mirrors.applyUpdate {stored diagram : Diagram κ} (h : stored.Mirrors diagram)
    (update : DiagramUpdate) :
    (stored.applyUpdate update).Mirrors (diagram.applyUpdate update) := by
  refine ⟨⟨h.tables, h.relationships, h.dependencies⟩, ?_⟩
  exact congrArg (fun summary : DiagramSummary => { summary with
    name := update.name.getD summary.name
    dialect := update.dialect.getD summary.dialect
    updatedAt := update.updatedAt.getD summary.updatedAt }) h.summary

namespace Workspace

/-- The storage serves writes, and it holds what mirrors the loaded diagram. -/
structure InStep (workspace : Workspace (MemoryStorage κ) κ) (diagram : Diagram κ) : Prop where
  loaded : workspace.session.diagram? = some diagram
  stored : ∃ stored, workspace.storage.Serves stored ∧ stored.Mirrors diagram

variable {workspace : Workspace (MemoryStorage κ) κ} {diagram : Diagram κ}

/-- Nothing but the loaded diagram and the storage matters. -/
theorem InStep.of_session (h : workspace.InStep diagram) {session : Session κ}
    (hsession : session.diagram? = workspace.session.diagram?) :
    (workspace.withSession session).InStep diagram :=
  ⟨hsession.trans h.loaded, h.stored⟩

/-- Writes that the stored diagram takes keep in step with what they mirror. -/
theorem InStep.writeAll (h : workspace.InStep diagram) {session : Session κ} {after : Diagram κ}
    {writes : List (DiagramWrite κ)} (hloaded : session.diagram? = some after)
    (hwrites : ∀ stored : Diagram κ, stored.Mirrors diagram →
      ∃ last, DiagramWrite.applyAll stored writes = .ok last ∧ last.Mirrors after) :
    ((workspace.withSession session).writeAll (writes.map (.within diagram.id))).1 = .ok () ∧
      ((workspace.withSession session).writeAll
        (writes.map (.within diagram.id))).2.InStep after := by
  obtain ⟨stored, hserves, hmirrors⟩ := h.stored
  obtain ⟨last, hlast, hafter⟩ := hwrites stored hmirrors
  obtain ⟨storage, hall, hserved⟩ := hserves.writeAll hlast
  have hid : stored.id = diagram.id := congrArg DiagramSummary.id hmirrors.summary
  rw [hid] at hall
  have hstorage : Storage.writeAll (workspace.withSession session).storage
      (writes.map (.within diagram.id)) = (.ok (), storage) := hall
  simp only [Workspace.writeAll, hstorage]
  exact ⟨rfl, hloaded, last, hserved, hafter⟩

/-- An update of the header is written without failure. -/
theorem InStep.update (h : workspace.InStep diagram) {session : Session κ}
    (update : DiagramUpdate) (hloaded : session.diagram? = some (diagram.applyUpdate update)) :
    ((workspace.withSession session).writeAll
        [.within diagram.id (.updateDiagram update)]).1 = .ok () ∧
      ((workspace.withSession session).writeAll
        [.within diagram.id (.updateDiagram update)]).2.InStep (diagram.applyUpdate update) := by
  have hwrites : ∀ stored : Diagram κ, stored.Mirrors diagram →
      ∃ last, DiagramWrite.applyAll stored [.updateDiagram update] = .ok last ∧
        last.Mirrors (diagram.applyUpdate update) := fun stored hmirrors =>
    ⟨stored.applyUpdate update, rfl, hmirrors.applyUpdate update⟩
  exact h.writeAll hloaded hwrites

/-- A mutation that is carried out between diagrams with distinct identifiers is written without
failure. -/
theorem InStep.perform (h : workspace.InStep diagram) (hdistinct : diagram.Distinct)
    {mutation : Mutation κ} {change : Change κ} (hchange : mutation.change diagram = .ok change)
    (hafter : change.diagram.Distinct) (record : Bool) :
    (workspace.perform mutation record).1 = .ok () ∧
      (workspace.perform mutation record).2.InStep
        (change.diagram.touched (workspace.session.supply.get 0).time) := by
  have heffect := Mutation.change_effect hchange
  rw [perform_of_change record h.loaded hchange, Session.commit]
  apply h.writeAll
  · cases record <;> rfl
  · intro stored hmirrors
    let update : DiagramUpdate :=
      { name := change.newName, updatedAt := some (workspace.session.supply.get 0).time }
    have halike : (stored.applyUpdate update).Alike diagram :=
      ⟨hmirrors.tables, hmirrors.relationships, hmirrors.dependencies⟩
    obtain ⟨last, hlast, hsummary, hsame⟩ :=
      DiagramWrite.yield_writes heffect hdistinct hafter halike
    refine ⟨last, (DiagramWrite.applyAll_cons rfl).trans hlast,
      ⟨hsame.tables, hsame.relationships, hsame.dependencies⟩, ?_⟩
    rw [heffect.summary, hsummary]
    exact (hmirrors.applyUpdate update).summary

/-- A mutation that leads from one diagram with distinct identifiers to another one. -/
theorem InStep.leads {before after : Diagram κ} {mutation : Mutation κ} {time : Timestamp}
    (h : workspace.InStep (before.touched time)) (hleads : mutation.Leads before after)
    (hbefore : before.Distinct) (hafter : after.Distinct) :
    (workspace.perform mutation false).1 = .ok () ∧
      ∃ later, (workspace.perform mutation false).2.InStep (after.touched later) := by
  obtain ⟨change, hchange, hsame⟩ := hleads.touched time
  have hdistinct : change.diagram.Distinct := by
    rw [hsame, Diagram.distinct_touched]
    exact hafter
  obtain ⟨hok, hnext⟩ := h.perform (Diagram.distinct_touched.mpr hbefore) hchange hdistinct false
  rw [hsame, Diagram.touched_touched] at hnext
  exact ⟨hok, _, hnext⟩

theorem InStep.performUntilError {before after : Diagram κ} {mutations : List (Mutation κ)}
    {time : Timestamp} (h : workspace.InStep (before.touched time))
    (hleads : Mutation.LeadsAll mutations before after)
    (hlinks : ∀ mutation ∈ mutations.tail, mutation.PutsLinksBack) (hbefore : before.Distinct)
    (hafter : after.Distinct) :
    (workspace.performUntilError mutations).1 = .ok () ∧
      ∃ later, (workspace.performUntilError mutations).2.InStep (after.touched later) := by
  induction mutations generalizing workspace before time with
  | nil =>
      obtain rfl : before = after := hleads
      exact ⟨rfl, time, h⟩
  | cons mutation rest ih =>
      obtain ⟨between, hfirst, hrest⟩ := hleads
      have hbetween := Mutation.distinct_of_leadsAll hlinks hrest hafter
      obtain ⟨hok, later, hnext⟩ := h.leads hfirst hbefore hbetween
      rw [Workspace.performUntilError]
      generalize workspace.perform mutation false = answer at hok hnext
      obtain ⟨result, next⟩ := answer
      obtain rfl : result = .ok () := hok
      exact ih hnext hrest (fun other hother => hlinks other (List.mem_of_mem_tail hother))
        hbetween

/-! ## Undo and redo in step -/

/-- Undoing the steps of a trail is written without failure. -/
theorem InStep.undo_trail {before after : Diagram κ} {steps : List (Step κ)} {time : Timestamp}
    (h : workspace.InStep (after.touched time)) (htrail : Step.Trail steps before after)
    (hsteps : ∀ step ∈ steps, step.BringsDistinct) (hbefore : before.Distinct) :
    let answer := workspace.runAll
      (steps.reverse.map fun step workspace => workspace.performUntilError step.undo)
    answer.1 = .ok () ∧ ∃ later, answer.2.InStep (before.touched later) := by
  induction steps generalizing before with
  | nil =>
      obtain ⟨other, rfl⟩ := htrail
      exact ⟨rfl, time, h⟩
  | cons step rest ih =>
      obtain ⟨between, hstep, hrest⟩ := htrail
      have hbetween := hstep.distinct (hsteps step List.mem_cons_self) hbefore
      obtain ⟨hok, later, hnext⟩ :=
        ih hrest (fun other hother => hsteps other (List.mem_cons_of_mem _ hother)) hbetween
      simp only [List.reverse_cons, List.map_append, List.map_cons, List.map_nil, runAll_append,
        runAll_singleton]
      rw [hok]
      have hpresent : InStep _ ((between.touched before.updatedAt).touched later) := hnext
      exact hpresent.performUntilError (hstep.back before.updatedAt) step.putsLinksBack_undo_tail
        (Diagram.distinct_touched.mpr hbetween) (Diagram.distinct_touched.mpr hbefore)

/-- Redoing the steps of a trail is written without failure. -/
theorem InStep.redo_trail {before after : Diagram κ} {steps : List (Step κ)} {time : Timestamp}
    (h : workspace.InStep (before.touched time)) (htrail : Step.Trail steps before after)
    (hsteps : ∀ step ∈ steps, step.BringsDistinct) (hbefore : before.Distinct) :
    let answer := workspace.runAll
      (steps.map fun step workspace => workspace.perform step.redo false)
    answer.1 = .ok () ∧ ∃ later, answer.2.InStep (after.touched later) := by
  induction steps generalizing workspace before time with
  | nil =>
      obtain ⟨other, rfl⟩ := htrail
      exact ⟨rfl, time, h⟩
  | cons step rest ih =>
      obtain ⟨between, hstep, hrest⟩ := htrail
      have hbetween := hstep.distinct (hsteps step List.mem_cons_self) hbefore
      have hpresent : InStep _ ((before.touched before.updatedAt).touched time) := h
      obtain ⟨hok, later, hnext⟩ := hpresent.leads (hstep.forth before.updatedAt)
        (Diagram.distinct_touched.mpr hbefore) (Diagram.distinct_touched.mpr hbetween)
      have hlater : InStep _ (between.touched later) := hnext
      obtain ⟨hothers, last, hlast⟩ := ih hlater hrest
        (fun other hother => hsteps other (List.mem_cons_of_mem _ hother)) hbetween
      simp only [List.map_cons, runAll]
      rw [hok]
      exact ⟨hothers, last, hlast⟩

/-- Setting back the time of the last update is written without failure. -/
theorem InStep.restoreUpdatedAt (h : workspace.InStep diagram) (time : Timestamp) :
    (workspace.restoreUpdatedAt time).1 = .ok () ∧
      (workspace.restoreUpdatedAt time).2.InStep (diagram.touched time) := by
  simp only [Workspace.restoreUpdatedAt, h.loaded]
  exact h.update { updatedAt := some time } rfl

end Workspace

end SchemaDiagram
