import Mathlib.Data.List.Forall2
import Mathlib.Data.List.Nodup

/-!
# Items with distinct keys

Names and identifiers serve as keys.  In a list whose items have distinct keys, looking up the key
of an item finds that item, and a list of declarations can be matched with the items one by one.
-/

namespace SchemaDiagram

variable {α β δ : Type}

theorem find?_key [BEq β] [LawfulBEq β] {key : α → β} {items : List α}
    (hnodup : (items.map key).Nodup) {item : α} (hitem : item ∈ items) :
    items.find? (fun other => key other == key item) = some item := by
  induction items with
  | nil => exact absurd hitem List.not_mem_nil
  | cons first rest ih =>
      rw [List.map_cons, List.nodup_cons] at hnodup
      obtain ⟨hfirst, hrest⟩ := hnodup
      by_cases heq : key first = key item
      · rcases List.mem_cons.mp hitem with rfl | hitem
        · simp
        · rw [heq] at hfirst
          exact absurd (List.mem_map_of_mem hitem) hfirst
      · rcases List.mem_cons.mp hitem with rfl | hitem
        · exact absurd rfl heq
        · simpa [List.find?_cons, heq] using ih hrest hitem

/-- What is found by a key has that key. -/
theorem key_of_find? [BEq β] [LawfulBEq β] {key : α → β} {items : List α} {wanted : β} {item : α}
    (h : items.find? (fun other => key other == wanted) = some item) : key item = wanted := by
  have hfound := List.find?_some h
  simpa using hfound

/-- Keys decide which item of a list is meant. -/
theorem eq_of_key {key : α → β} {items : List α} (hnodup : (items.map key).Nodup) {first second : α}
    (hfirst : first ∈ items) (hsecond : second ∈ items) (h : key first = key second) :
    first = second :=
  List.inj_on_of_nodup_map hnodup hfirst hsecond h

/-! ## Items and their declarations -/

theorem forall₂_mem {r : α → δ → Prop} {items : List α} {declarations : List δ}
    (h : List.Forall₂ r items declarations) :
    List.Forall₂ (fun item declaration => item ∈ items ∧ declaration ∈ declarations ∧
      r item declaration) items declarations := by
  induction h with
  | nil => exact .nil
  | cons hfirst _ ih =>
      refine .cons ⟨List.mem_cons_self, List.mem_cons_self, hfirst⟩ (ih.imp ?_)
      rintro item declaration ⟨hitem, hdeclaration, hr⟩
      exact ⟨List.mem_cons_of_mem _ hitem, List.mem_cons_of_mem _ hdeclaration, hr⟩

theorem forall₂_trans {β γ : Type} {r : α → β → Prop} {s : β → γ → Prop} {t : α → γ → Prop}
    (hrst : ∀ a b c, r a b → s b c → t a c) {first : List α} {second : List β} {third : List γ}
    (h : List.Forall₂ r first second) (h' : List.Forall₂ s second third) :
    List.Forall₂ t first third := by
  induction h generalizing third with
  | nil =>
      cases h'
      exact .nil
  | cons hr _ ih =>
      cases h' with
      | cons hs hrest => exact .cons (hrst _ _ _ hr hs) (ih hrest)

theorem map_eq_of_forall₂ {β : Type} {f : α → β} {g : δ → β} {items : List α}
    {declarations : List δ}
    (h : List.Forall₂ (fun item declaration => f item = g declaration) items declarations) :
    items.map f = declarations.map g := by
  induction h with
  | nil => rfl
  | cons hfirst _ ih => rw [List.map_cons, List.map_cons, hfirst, ih]

theorem exists_left_of_mem {r : α → δ → Prop} {items : List α} {declarations : List δ}
    (h : List.Forall₂ r items declarations) {declaration : δ} (hmem : declaration ∈ declarations) :
    ∃ item ∈ items, r item declaration := by
  induction h with
  | nil => exact absurd hmem List.not_mem_nil
  | @cons item _ _ _ hfirst _ ih =>
      rcases List.mem_cons.mp hmem with rfl | hmem
      · exact ⟨item, List.mem_cons_self, hfirst⟩
      · obtain ⟨found, hfound, hr⟩ := ih hmem
        exact ⟨found, List.mem_cons_of_mem _ hfound, hr⟩

theorem exists_right_of_mem {r : α → δ → Prop} {items : List α} {declarations : List δ}
    (h : List.Forall₂ r items declarations) {item : α} (hmem : item ∈ items) :
    ∃ declaration ∈ declarations, r item declaration := by
  have hflip : List.Forall₂ (flip r) declarations items := List.Forall₂.flip h
  exact exists_left_of_mem hflip hmem

/-- If every item has a declaration, the declarations go along with the items. -/
theorem forall₂_filterMap {r : α → δ → Prop} {f : α → Option δ} {items : List α}
    (h : ∀ item ∈ items, ∃ declaration, f item = some declaration ∧ r item declaration) :
    List.Forall₂ r items (items.filterMap f) := by
  induction items with
  | nil => exact .nil
  | cons item rest ih =>
      obtain ⟨declaration, hsome, hr⟩ := h item List.mem_cons_self
      have hrest := ih fun other hother => h other (List.mem_cons_of_mem _ hother)
      rw [List.filterMap_cons_some hsome]
      exact .cons hr hrest

/-- Reading all declarations succeeds exactly if an item is read off each of them. -/
theorem mapM_eq_some_iff {read : δ → Option α} {items : List α} {declarations : List δ} :
    declarations.mapM read = some items ↔
      List.Forall₂ (fun item declaration => read declaration = some item) items declarations := by
  induction declarations generalizing items with
  | nil => simp [eq_comm]
  | cons declaration rest ih =>
      simp only [List.mapM_cons, Option.bind_eq_bind, Option.bind_eq_some_iff]
      constructor
      · rintro ⟨first, hfirst, others, hothers, hsame⟩
        obtain rfl := Option.some.inj hsame
        exact .cons hfirst (ih.mp hothers)
      · intro h
        cases h with
        | cons hfirst hothers => exact ⟨_, hfirst, _, ih.mpr hothers, rfl⟩

/-- Reading declarations at any positions gives the items that are read off them. -/
theorem zipIdx_map_of_forall₂ {read : δ × Nat → α} {items : List α} {declarations : List δ}
    (h : List.Forall₂ (fun item declaration => ∀ position, read (declaration, position) = item)
      items declarations) (start : Nat) : (declarations.zipIdx start).map read = items := by
  induction h generalizing start with
  | nil => rfl
  | cons hfirst _ ih => rw [List.zipIdx_cons, List.map_cons, hfirst, ih]

/-- Declarations that give nothing may stand in between. -/
theorem zipIdx_filterMap_of_forall₂ {read : δ × Nat → Option α} {p : δ → Bool} {items : List α}
    {declarations : List δ}
    (hnone : ∀ declaration ∈ declarations, p declaration = false →
      ∀ position, read (declaration, position) = none)
    (h : List.Forall₂ (fun item declaration => ∀ position, read (declaration, position) = some item)
      items (declarations.filter p)) (start : Nat) :
    (declarations.zipIdx start).filterMap read = items := by
  induction declarations generalizing items start with
  | nil =>
      cases h
      rfl
  | cons declaration rest ih =>
      have hrest : ∀ other ∈ rest, p other = false → ∀ position, read (other, position) = none :=
        fun other hother => hnone other (List.mem_cons_of_mem _ hother)
      rw [List.zipIdx_cons]
      cases hp : p declaration with
      | false =>
          rw [List.filter_cons_of_neg (by simp [hp])] at h
          rw [List.filterMap_cons_none (hnone declaration List.mem_cons_self hp start)]
          exact ih hrest h (start + 1)
      | true =>
          rw [List.filter_cons_of_pos hp] at h
          cases h with
          | cons hfirst hmore =>
              rw [List.filterMap_cons_some (hfirst start), ih hrest hmore (start + 1)]

/-- Each declaration goes along with what is read off it. -/
theorem forall₂_zipIdx_map {r : α → δ → Prop} {read : δ × Nat → α} {declarations : List δ}
    (h : ∀ declaration ∈ declarations, ∀ position, r (read (declaration, position)) declaration)
    (start : Nat) : List.Forall₂ r ((declarations.zipIdx start).map read) declarations := by
  induction declarations generalizing start with
  | nil => exact .nil
  | cons declaration rest ih =>
      refine .cons (h declaration List.mem_cons_self start) (ih ?_ (start + 1))
      exact fun other hother => h other (List.mem_cons_of_mem _ hother)

theorem forall₂_zipIdx_filterMap {r : α → δ → Prop} {read : δ × Nat → Option α} {p : δ → Bool}
    {declarations : List δ}
    (hsome : ∀ declaration ∈ declarations, p declaration = true → ∀ position,
      ∃ item, read (declaration, position) = some item ∧ r item declaration)
    (hnone : ∀ declaration ∈ declarations, p declaration = false →
      ∀ position, read (declaration, position) = none) (start : Nat) :
    List.Forall₂ r ((declarations.zipIdx start).filterMap read) (declarations.filter p) := by
  induction declarations generalizing start with
  | nil => exact .nil
  | cons declaration rest ih =>
      have hrest := ih (fun other hother => hsome other (List.mem_cons_of_mem _ hother))
        (fun other hother => hnone other (List.mem_cons_of_mem _ hother)) (start + 1)
      rw [List.zipIdx_cons]
      cases hp : p declaration with
      | false =>
          rw [List.filterMap_cons_none (hnone declaration List.mem_cons_self hp start),
            List.filter_cons_of_neg (by simp [hp])]
          exact hrest
      | true =>
          obtain ⟨item, hitem, hr⟩ := hsome declaration List.mem_cons_self hp start
          rw [List.filterMap_cons_some hitem, List.filter_cons_of_pos hp]
          exact .cons hr hrest

end SchemaDiagram
