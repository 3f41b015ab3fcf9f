import SchemaDiagram.Proofs.Keyed
import SchemaDiagram.Proofs.Session.Inverse

/-!
# Steps on a list of parts

Tables, relationships and dependencies of a diagram, fields and indexes of a table: each of them is
a list of parts with identifiers, and mutations put parts into it, change them and take them out.
The steps of such mutations are undone and redone in the same way, whatever list it is.  The
function `holding` gives the diagram that has a list of parts in that place.
-/

namespace SchemaDiagram

variable {κ α π : Type} {key : α → Identifier} {holding : List α → Diagram κ} {step : Step κ}

/-! ## Taking parts out by their identifiers -/

/-- New items are told apart from the old ones by their identifiers. -/
theorem takePositioned_new {old new : List α}
    (h : ∀ item ∈ new, old.find? (fun other => key other == key item) = none) :
    (takePositioned (fun item => (new.map key).contains (key item)) (old ++ new)).2 = old ∧
      (takePositioned (fun item => (new.map key).contains (key item)) (old ++ new)).1.map
        Prod.snd = new := by
  apply takePositioned_append
  · intro item hitem
    simp only [List.contains_eq_mem, List.mem_map, decide_eq_false_iff_not, not_exists, not_and]
    intro other hother heq
    have hnone := List.find?_eq_none.mp (h other hother) item hitem
    simp [heq] at hnone
  · intro item hitem
    simpa using ⟨item, hitem, rfl⟩

/-- If there are new items, some are taken. -/
theorem takePositioned_new_ne_nil {old new : List α}
    (h : ∀ item ∈ new, old.find? (fun other => key other == key item) = none)
    (hnew : new.map key ≠ []) :
    (takePositioned (fun item => (new.map key).contains (key item)) (old ++ new)).1 ≠ [] := by
  intro hnone
  have htaken := (takePositioned_new h).2
  rw [hnone] at htaken
  subst htaken
  exact hnew rfl

/-- The identifiers of the items that are taken. -/
theorem map_key_takePositioned (p : α → Bool) (items : List α) :
    (takePositioned p items).1.map (fun entry => key entry.2) = (items.filter p).map key := by
  rw [← takePositioned_fst_map_snd, List.map_map]
  rfl

/-- An item whose identifier is asked for is taken. -/
theorem takePositioned_ne_nil {ids : List Identifier} {items : List α} {id : Identifier}
    (hid : id ∈ ids) (hmem : id ∈ items.map key) :
    (takePositioned (fun item => ids.contains (key item)) items).1 ≠ [] := by
  obtain ⟨item, hitem, rfl⟩ := List.mem_map.mp hmem
  intro hnone
  rw [takePositioned_fst_eq_nil_iff] at hnone
  simpa [hid] using hnone item hitem

/-- Removing the items that were taken removes just those again. -/
theorem takePositioned_taken (key : α → Identifier) (ids : List Identifier) (items : List α) :
    takePositioned
        (fun item => ((takePositioned (fun item => ids.contains (key item)) items).1.map
          fun entry => key entry.2).contains (key item)) items =
      takePositioned (fun item => ids.contains (key item)) items := by
  apply takePositioned_congr
  intro item hitem
  rw [map_key_takePositioned, Bool.eq_iff_iff]
  simp only [List.contains_eq_mem, decide_eq_true_eq, List.mem_map, List.mem_filter]
  constructor
  · rintro ⟨other, ⟨-, hid⟩, heq⟩
    rwa [heq] at hid
  · intro hid
    exact ⟨item, ⟨hitem, hid⟩, rfl⟩

theorem takePositioned_taken_ne_nil {ids : List Identifier} {items : List α}
    (h : (takePositioned (fun item => ids.contains (key item)) items).1.map
      (fun entry => key entry.2) ≠ []) :
    (takePositioned
      (fun item => ((takePositioned (fun item => ids.contains (key item)) items).1.map
        fun entry => key entry.2).contains (key item)) items).1 ≠ [] := by
  rw [takePositioned_taken]
  intro hnone
  rw [hnone] at h
  exact h rfl

namespace Step.Connects

/-! ## Updating a part -/

/-- An update is undone by copying the old part onto the new one, and redone the other way round. -/
theorem of_update {apply : α → π → α} {copy : α → π} {update : Identifier → π → Mutation κ}
    (hleads : ∀ items item patch,
      items.find? (fun other => key other == key item) = some item →
        (update (key item) patch).Leads (holding items) (holding (updateFirst
          (fun other => key other == key item) (fun other => apply other patch) items)))
    (hkey : ∀ item patch, key (apply item patch) = key item)
    (hcopy : ∀ item patch, apply item (copy (apply item patch)) = apply item patch ∧
      apply (apply item patch) (copy item) = item)
    {items : List α} {item : α}
    (hfind : items.find? (fun other => key other == key item) = some item) (patch : π)
    (hundo : step.undo = [update (key item) (copy item)])
    (hredo : step.redo = update (key item) (copy (apply item patch))) :
    step.Connects (holding items) (holding (updateFirst (fun other => key other == key item)
      (fun other => apply other patch) items)) := by
  obtain ⟨hforth, hback⟩ := hcopy item patch
  apply of_leads
  · have hafter : (updateFirst (fun other => key other == key item)
        (fun other => apply other patch) items).find?
        (fun other => key other == key (apply item patch)) = some (apply item patch) := by
      rw [hkey]
      exact find?_updateFirst hfind (by simp [hkey])
    have hundone := hleads _ _ (copy item) hafter
    rw [hkey, updateFirst_cancel hfind (by simp [hkey]) hback] at hundone
    rw [hundo]
    exact .single hundone
  · have hredone := hleads items item (copy (apply item patch)) hfind
    have hsame : updateFirst (fun other => key other == key item)
        (fun other => apply other (copy (apply item patch))) items =
        updateFirst (fun other => key other == key item) (fun other => apply other patch) items :=
      updateFirst_congr hfind hforth
    rw [hsame] at hredone
    rwa [hredo]

/-! ## A single part -/

section Single

variable {insert : α → Option Nat → Mutation κ} {remove : Identifier → Mutation κ}
  (hinsert : ∀ items item position, (insert item position).Leads (holding items)
    (holding (insertClamped items (position.getD items.length) item)))
  (hremove : ∀ items item, items.find? (fun other => key other == key item) = some item →
    (remove (key item)).Leads (holding items)
      (holding (items.eraseIdx (items.findIdx fun other => key other == key item))))

include hinsert hremove

/-- A new part at the end is found there and taken out again. -/
theorem of_append {items : List α} {item : α}
    (hnew : items.find? (fun other => key other == key item) = none)
    (hundo : step.undo = [remove (key item)]) (hredo : step.redo = insert item none) :
    step.Connects (holding items)
      (holding (insertClamped items items.length item)) := by
  have hnone : ∀ other ∈ items, (key other == key item) = false := by
    intro other hother
    simpa using List.find?_eq_none.mp hnew other hother
  obtain ⟨hfind, herase⟩ := eraseIdx_findIdx_append hnone (beq_self_eq_true (key item))
  apply of_leads
  · have hundone := hremove _ _ hfind
    rw [herase, ← insertClamped_end] at hundone
    rw [hundo]
    exact .single hundone
  · rw [hredo]
    exact hinsert items item none

/-- A part that is taken out goes back to its position. -/
theorem of_erase {items : List α} {item : α}
    (hfind : items.find? (fun other => key other == key item) = some item)
    (hundo : step.undo =
      [insert item (some (items.findIdx fun other => key other == key item))])
    (hredo : step.redo = remove (key item)) :
    step.Connects (holding items)
      (holding (items.eraseIdx (items.findIdx fun other => key other == key item))) := by
  apply of_leads
  · have hundone := hinsert
      (items.eraseIdx (items.findIdx fun other => key other == key item)) item
      (some (items.findIdx fun other => key other == key item))
    rw [Option.getD_some, insertClamped_eraseIdx_findIdx hfind] at hundone
    rw [hundo]
    exact .single hundone
  · rw [hredo]
    exact hremove items item hfind

end Single

/-! ## Several parts -/

section Several

variable {insertAll : List (Nat × α) → Mutation κ} {addAll : List α → Mutation κ}
  {removeAll : List Identifier → Mutation κ}
  (hinsert : ∀ items entries,
    (insertAll entries).Leads (holding items) (holding (insertPositioned items entries)))
  (hadd : ∀ items new, (addAll new).Leads (holding items) (holding (items ++ new)))
  (hremove : ∀ items ids,
    (ids ≠ [] → (takePositioned (fun item => ids.contains (key item)) items).1 ≠ []) →
      (removeAll ids).Leads (holding items)
        (holding (takePositioned (fun item => ids.contains (key item)) items).2))

include hremove

include hadd in
/-- New parts at the end are taken out again by their identifiers. -/
theorem of_appendAll {items new : List α}
    (hnew : ∀ item ∈ new, items.find? (fun other => key other == key item) = none)
    (hundo : step.undo = [removeAll (new.map key)]) (hredo : step.redo = addAll new) :
    step.Connects (holding items) (holding (items ++ new)) := by
  apply of_leads
  · have hundone := hremove (items ++ new) (new.map key) (takePositioned_new_ne_nil hnew)
    rw [(takePositioned_new hnew).1] at hundone
    rw [hundo]
    exact .single hundone
  · rw [hredo]
    exact hadd items new

include hinsert in
/-- Parts that are taken out go back to their positions. -/
theorem of_removeAll {items : List α} {ids : List Identifier}
    (hundo : step.undo =
      [insertAll (takePositioned (fun item => ids.contains (key item)) items).1])
    (hredo : step.redo = removeAll
      ((takePositioned (fun item => ids.contains (key item)) items).1.map
        fun entry => key entry.2)) :
    step.Connects (holding items)
      (holding (takePositioned (fun item => ids.contains (key item)) items).2) := by
  apply of_leads
  · have hundone := hinsert (takePositioned (fun item => ids.contains (key item)) items).2
      (takePositioned (fun item => ids.contains (key item)) items).1
    rw [insertPositioned_takePositioned] at hundone
    rw [hundo]
    exact .single hundone
  · have hredone := hremove items
      ((takePositioned (fun item => ids.contains (key item)) items).1.map
        fun entry => key entry.2) takePositioned_taken_ne_nil
    rw [takePositioned_taken] at hredone
    rwa [hredo]

end Several

end Step.Connects

end SchemaDiagram
