import SchemaDiagram.Proofs.Keyed
import SchemaDiagram.Proofs.Positioned

/-!
# Updates, one after another

Declarations are taken into account one by one: one declaration leaves an item as it is, another one
updates it, and a third one creates an item.  No item is stood for twice, so that all updates
together rebuild every item on its own, and what the declarations aimed at is what is there in the
end, up to order.
-/

namespace SchemaDiagram

variable {α δ π : Type}

/-- Apply updates one after another, each of them to the first item with its identifier. -/
def updateAll (key : α → Identifier) (apply : α → π → α) (items : List α)
    (updates : List (Identifier × π)) : List α :=
  updates.foldl (fun items update =>
    updateFirst (fun item => key item == update.1) (fun item => apply item update.2) items) items

variable {key : α → Identifier} {apply : α → π → α}

theorem updateAll_append (items : List α) (updates : List (Identifier × π)) (id : Identifier)
    (patch : π) : updateAll key apply items (updates ++ [(id, patch)]) =
      updateFirst (fun item => key item == id) (fun item => apply item patch)
        (updateAll key apply items updates) := by
  rw [updateAll, List.foldl_append]
  rfl

/-- What no update touches is kept. -/
theorem map_updateAll {β : Type} {f : α → β} {updates : List (Identifier × π)}
    (h : ∀ update ∈ updates, ∀ item, f (apply item update.2) = f item) (items : List α) :
    (updateAll key apply items updates).map f = items.map f := by
  induction updates generalizing items with
  | nil => rfl
  | cons update rest ih =>
      have hrest := ih fun other hother => h other (List.mem_cons_of_mem _ hother)
      rw [updateAll, List.foldl_cons]
      exact (hrest _).trans (map_updateFirst (h update List.mem_cons_self) items)

theorem updateFirst_of_none {p : α → Bool} {change : α → α} {items : List α}
    (h : ∀ item ∈ items, p item = false) : updateFirst p change items = items := by
  induction items with
  | nil => rfl
  | cons first rest ih =>
      rw [updateFirst, h first List.mem_cons_self, if_neg Bool.false_ne_true,
        ih fun item hitem => h item (List.mem_cons_of_mem _ hitem)]

theorem updateFirst_append {p : α → Bool} {change : α → α} {items : List α} {item : α}
    (h : items.find? p = some item) (more : List α) :
    updateFirst p change (items ++ more) = updateFirst p change items ++ more := by
  induction items with
  | nil => cases h
  | cons first rest ih =>
      cases hp : p first with
      | true => simp [updateFirst, hp]
      | false =>
          have hrest : rest.find? p = some item := by simpa [hp] using h
          simp [updateFirst, hp, ih hrest]

/-- Where keys are distinct, updating by a key changes exactly the item with that key. -/
theorem updateFirst_map_key {items : List α} {f change : α → α}
    (hkey : ∀ item, key (f item) = key item) (hnodup : (items.map key).Nodup) (id : Identifier) :
    updateFirst (fun item => key item == id) change (items.map f) =
      items.map fun item => if key item = id then change (f item) else f item := by
  induction items with
  | nil => rfl
  | cons first rest ih =>
      rw [List.map_cons, List.nodup_cons] at hnodup
      obtain ⟨hfirst, hrest⟩ := hnodup
      rw [List.map_cons, updateFirst, hkey, List.map_cons]
      by_cases hid : key first = id
      · have hothers : (rest.map fun item => if key item = id then change (f item) else f item) =
            rest.map f := by
          apply List.map_congr_left
          intro item hitem
          rw [if_neg]
          rintro hsame
          rw [hid, ← hsame] at hfirst
          exact hfirst (List.mem_map_of_mem hitem)
        rw [if_pos (beq_iff_eq.mpr hid), if_pos hid, hothers]
      · rw [if_neg (by simpa using hid), if_neg hid, ih hrest]

theorem updateFirst_eq_map {items : List α} (hnodup : (items.map key).Nodup) (id : Identifier)
    (change : α → α) : updateFirst (fun item => key item == id) change items =
      items.map fun item => if key item = id then change item else item := by
  have hmap : updateFirst (fun item => key item == id) change (items.map fun item => item) =
      items.map fun item => if key item = id then change item else item :=
    updateFirst_map_key (fun _ => rfl) hnodup id
  rwa [List.map_id'] at hmap

/-- Where no item is updated twice, every item is left as it was or as its own update makes it. -/
theorem mem_updateAll (hkey : ∀ item patch, key (apply item patch) = key item) {items : List α}
    {updates : List (Identifier × π)} (hnodup : (items.map key).Nodup)
    (hupdates : (updates.map Prod.fst).Nodup) {item : α} (hitem : item ∈ items) :
    (item ∈ updateAll key apply items updates ∧ key item ∉ updates.map Prod.fst) ∨
      ∃ patch, (key item, patch) ∈ updates ∧
        apply item patch ∈ updateAll key apply items updates := by
  induction updates generalizing items item with
  | nil => exact .inl ⟨hitem, List.not_mem_nil⟩
  | cons update rest ih =>
      rw [List.map_cons, List.nodup_cons] at hupdates
      obtain ⟨hfirst, hrest⟩ := hupdates
      have hnext := updateFirst_eq_map hnodup update.1 fun item => apply item update.2
      have hnodup' : ((updateFirst (fun item => key item == update.1)
          (fun item => apply item update.2) items).map key).Nodup := by
        rwa [map_updateFirst fun item => hkey item update.2]
      have hafter := List.mem_map_of_mem
        (f := fun item => if key item = update.1 then apply item update.2 else item) hitem
      rw [← hnext] at hafter
      by_cases hid : key item = update.1
      · rw [if_pos hid] at hafter
        have hkeep : key (apply item update.2) = update.1 := (hkey _ _).trans hid
        rcases ih hnodup' hrest hafter with ⟨hleft, -⟩ | ⟨patch, hpatch, -⟩
        · exact .inr ⟨update.2, by rw [hid]; exact List.mem_cons_self, hleft⟩
        · rw [hkeep] at hpatch
          exact absurd (List.mem_map_of_mem hpatch) hfirst
      · rw [if_neg hid] at hafter
        rcases ih hnodup' hrest hafter with ⟨hleft, hother⟩ | ⟨patch, hpatch, hleft⟩
        · refine .inl ⟨hleft, ?_⟩
          rw [List.map_cons, List.mem_cons]
          exact fun hor => hor.elim hid hother
        · exact .inr ⟨patch, List.mem_cons_of_mem _ hpatch, hleft⟩

/-! ## Items stood for -/

theorem mem_filterMap_cons {f : δ → Option α} {declaration : δ} {rest : List δ} {item : α}
    (h : item ∈ rest.filterMap f) : item ∈ (declaration :: rest).filterMap f := by
  obtain ⟨other, hother, hsome⟩ := List.mem_filterMap.mp h
  exact List.mem_filterMap.mpr ⟨other, List.mem_cons_of_mem _ hother, hsome⟩

/-- If no item is stood for twice, the next declaration stands for one that was not stood for. -/
theorem stands_of_nodup {f : δ → Option α} {declaration : δ} {done rest : List δ} {kept : List α}
    (hkept : ∀ item ∈ (declaration :: rest).filterMap f, item ∈ kept)
    (hnodup : ((done ++ declaration :: rest).filterMap f).Nodup) :
    ∀ item, f declaration = some item → item ∈ kept ∧ item ∉ done.filterMap f := by
  intro item hsome
  rw [List.filterMap_cons_some hsome] at hkept
  rw [List.filterMap_append, List.filterMap_cons_some hsome, List.nodup_append] at hnodup
  refine ⟨hkept item List.mem_cons_self, fun hmem => ?_⟩
  exact hnodup.2.2 item hmem item List.mem_cons_self rfl

/-! ## Keeping track -/

/-- The items in `stood` have been taken into account, and every item is rebuilt on its own; what
the declarations so far aimed at are the rebuilt ones among these and the created items. -/
structure Tracks (key : α → Identifier) (apply : α → π → α) (kept : List α)
    (updated : List (Identifier × π)) (created stood targets : List α) (rebuilt : α → α) :
    Prop where
  all : updateAll key apply kept updated = kept.map rebuilt
  key_rebuilt : ∀ item, key (rebuilt item) = key item
  rest : ∀ item ∈ kept, item ∉ stood → rebuilt item = item
  subset : ∀ item ∈ stood, item ∈ kept
  perm : targets.Perm (stood.map rebuilt ++ created)

namespace Tracks

variable {kept created stood targets : List α} {updated : List (Identifier × π)} {rebuilt : α → α}
  {item : α}

theorem start (kept : List α) : Tracks key apply kept [] [] [] [] id :=
  ⟨(List.map_id kept).symm, fun _ => rfl, fun _ _ _ => rfl,
    fun _ hmem => absurd hmem List.not_mem_nil, .refl _⟩

theorem perm_concat {first second : List α} (h : targets.Perm (first ++ second)) (item : α) :
    (targets ++ [item]).Perm ((first ++ [item]) ++ second) := by
  have hend : (targets ++ [item]).Perm (first ++ second ++ [item]) := h.append_right [item]
  rw [List.append_assoc] at hend
  rw [List.append_assoc]
  exact hend.trans (List.perm_append_comm.append_left first)

/-- A declaration that leaves its item as it is. -/
theorem same (h : Tracks key apply kept updated created stood targets rebuilt)
    (hkept : item ∈ kept) (hnew : item ∉ stood) :
    Tracks key apply kept updated created (stood ++ [item]) (targets ++ [item]) rebuilt := by
  refine ⟨h.all, h.key_rebuilt, ?_, ?_, ?_⟩
  · intro other hother hnot
    exact h.rest other hother fun hmem => hnot (List.mem_append_left _ hmem)
  · intro other hother
    rcases List.mem_append.mp hother with hold | hlast
    · exact h.subset other hold
    · rwa [List.mem_singleton.mp hlast]
  · rw [List.map_append, List.map_singleton, h.rest item hkept hnew]
    exact perm_concat h.perm item

/-- A declaration that updates its item. -/
theorem update (h : Tracks key apply kept updated created stood targets rebuilt)
    (hnodup : (kept.map key).Nodup) (hkept : item ∈ kept) (hnew : item ∉ stood) (patch : π)
    (hkey : key (apply item patch) = key item) :
    ∃ again, Tracks key apply kept (updated ++ [(key item, patch)]) created (stood ++ [item])
      (targets ++ [apply item patch]) again := by
  have hsame := h.same hkept hnew
  have hrebuilt := h.rest item hkept hnew
  have honly : ∀ other ∈ kept, key other = key item → other = item := fun other hother =>
    eq_of_key hnodup hother hkept
  refine ⟨fun other => if key other = key item then apply item patch else rebuilt other,
    ?_, ?_, ?_, hsame.subset, ?_⟩
  · rw [updateAll_append, h.all, updateFirst_map_key h.key_rebuilt hnodup]
    apply List.map_congr_left
    intro other hother
    by_cases hid : key other = key item
    · rw [if_pos hid, if_pos hid, honly other hother hid, hrebuilt]
    · rw [if_neg hid, if_neg hid]
  · intro other
    by_cases hid : key other = key item
    · rw [if_pos hid, hid, hkey]
    · rw [if_neg hid, h.key_rebuilt]
  · intro other hother hnot
    rw [if_neg]
    · exact hsame.rest other hother hnot
    · intro hid
      rw [honly other hother hid] at hnot
      exact hnot (List.mem_append_right _ (List.mem_singleton_self _))
  · have hold : (stood.map fun other => if key other = key item then apply item patch
        else rebuilt other) = stood.map rebuilt := by
      apply List.map_congr_left
      intro other hother
      rw [if_neg]
      intro hid
      rw [honly other (h.subset other hother) hid] at hother
      exact hnew hother
    rw [List.map_append, List.map_singleton, hold, if_pos rfl]
    exact perm_concat h.perm (apply item patch)

/-- A declaration that creates an item. -/
theorem create (h : Tracks key apply kept updated created stood targets rebuilt) (item : α) :
    Tracks key apply kept updated (created ++ [item]) stood (targets ++ [item]) rebuilt := by
  refine ⟨h.all, h.key_rebuilt, h.rest, h.subset, ?_⟩
  rw [← List.append_assoc]
  exact h.perm.append_right [item]

/-- Once all items that are left are stood for, what was aimed at is what is there. -/
theorem finish (h : Tracks key apply kept updated created stood targets rebuilt)
    (hall : stood.Perm kept) : targets.Perm (updateAll key apply kept updated ++ created) := by
  rw [h.all]
  exact h.perm.trans ((hall.map rebuilt).append_right created)

/-- An item that was not stood for yet is where it was. -/
theorem find?_updateAll (h : Tracks key apply kept updated created stood targets rebuilt)
    (hnodup : (kept.map key).Nodup) (hkept : item ∈ kept) (hnew : item ∉ stood) :
    (updateAll key apply kept updated).find? (fun other => key other == key item) =
      some item := by
  have hkeys : ((kept.map rebuilt).map key).Nodup := by
    rwa [List.map_map, Function.comp_def, List.map_congr_left fun other _ => h.key_rebuilt other]
  have hmem : item ∈ kept.map rebuilt := by
    rw [← h.rest item hkept hnew]
    exact List.mem_map_of_mem hkept
  rw [h.all]
  exact find?_key hkeys hmem

end Tracks

end SchemaDiagram
