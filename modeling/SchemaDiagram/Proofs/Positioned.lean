import SchemaDiagram.Positioned
import SchemaDiagram.Model.Diagram

/-!
# Putting items back where they were

Items taken out of a list with their positions can be put back one by one: every position refers to
the list before anything was taken, and the part in front of it has been rebuilt by then.  The other
half of this module is about changing the first item that satisfies a predicate.
-/

namespace SchemaDiagram

variable {α : Type}

/-! ## Positions -/

@[simp] theorem positionedFrom_nil (start : Nat) : positionedFrom start ([] : List α) = [] := rfl

@[simp] theorem positionedFrom_cons (start : Nat) (item : α) (items : List α) :
    positionedFrom start (item :: items) = (start, item) :: positionedFrom (start + 1) items := by
  simp [positionedFrom, List.zipIdx_succ, Nat.add_assoc, Nat.add_comm 1]

@[simp] theorem positionedFrom_map_snd (start : Nat) (items : List α) :
    (positionedFrom start items).map Prod.snd = items := by
  induction items generalizing start with
  | nil => rfl
  | cons item items ih => simp [ih]

theorem takePositioned_fst (p : α → Bool) (items : List α) :
    (takePositioned p items).1 = (positionedFrom 0 items).filter fun entry => p entry.2 := by
  simp [takePositioned, List.partition_eq_filter_filter]

theorem positionedFrom_filter_map_snd (p : α → Bool) (start : Nat) (items : List α) :
    ((positionedFrom start items).filter fun entry => p entry.2).map Prod.snd =
      items.filter p := by
  induction items generalizing start with
  | nil => rfl
  | cons item items ih => cases h : p item <;> simp [h, ih]

/-- What is left are the items that do not satisfy the predicate, in order. -/
theorem takePositioned_snd (p : α → Bool) (items : List α) :
    (takePositioned p items).2 = items.filter fun item => !p item := by
  have h := positionedFrom_filter_map_snd (fun item => !p item) 0 items
  simpa [takePositioned, List.partition_eq_filter_filter, Function.comp_def] using h

/-- What is taken are the items that satisfy the predicate, in order. -/
theorem takePositioned_fst_map_snd (p : α → Bool) (items : List α) :
    (takePositioned p items).1.map Prod.snd = items.filter p := by
  rw [takePositioned_fst, positionedFrom_filter_map_snd]

theorem takePositioned_fst_eq_nil_iff (p : α → Bool) (items : List α) :
    (takePositioned p items).1 = [] ↔ ∀ item ∈ items, p item = false := by
  have hmap : (takePositioned p items).1.map Prod.snd = [] ↔ (takePositioned p items).1 = [] :=
    List.map_eq_nil_iff
  rw [← hmap, takePositioned_fst_map_snd]
  simp

/-- Taking depends on the predicate at the items of the list only. -/
theorem takePositioned_congr {p q : α → Bool} {items : List α}
    (h : ∀ item ∈ items, p item = q item) : takePositioned p items = takePositioned q items := by
  apply Prod.ext
  · rw [takePositioned_fst, takePositioned_fst]
    apply List.filter_congr
    intro entry hentry
    apply h
    have hmem : entry.2 ∈ (positionedFrom 0 items).map Prod.snd :=
      List.mem_map_of_mem hentry
    simpa using hmem
  · rw [takePositioned_snd, takePositioned_snd]
    apply List.filter_congr
    intro item hitem
    rw [h item hitem]

theorem takePositioned_of_none {p : α → Bool} {items : List α}
    (h : ∀ item ∈ items, p item = false) : takePositioned p items = ([], items) := by
  apply Prod.ext
  · exact (takePositioned_fst_eq_nil_iff p items).mpr h
  · rw [takePositioned_snd, List.filter_eq_self.mpr]
    intro item hitem
    simp [h item hitem]

/-- Items put behind a list can be taken off again if they alone satisfy the predicate. -/
theorem takePositioned_append {p : α → Bool} {old new : List α}
    (hold : ∀ item ∈ old, p item = false) (hnew : ∀ item ∈ new, p item = true) :
    (takePositioned p (old ++ new)).2 = old ∧
      (takePositioned p (old ++ new)).1.map Prod.snd = new := by
  rw [takePositioned_snd, takePositioned_fst_map_snd, List.filter_append, List.filter_append]
  have hkeep : old.filter (fun item => !p item) = old := by
    rw [List.filter_eq_self]
    intro item hitem
    simp [hold item hitem]
  have hdrop : new.filter (fun item => !p item) = [] := by
    rw [List.filter_eq_nil_iff]
    intro item hitem
    simp [hnew item hitem]
  have hnone : old.filter p = [] := by
    rw [List.filter_eq_nil_iff]
    intro item hitem
    simp [hold item hitem]
  have hall : new.filter p = new := List.filter_eq_self.mpr hnew
  rw [hkeep, hdrop, hnone, hall]
  simp

/-! ## Putting back -/

theorem insertClamped_length (done rest : List α) (item : α) :
    insertClamped (done ++ rest) done.length item = done ++ item :: rest := by
  induction done with
  | nil => simp [insertClamped]
  | cons first done ih =>
    have hmin : min done.length (done ++ rest).length = done.length := by simp
    have hmin' : min (first :: done).length (first :: done ++ rest).length =
        (first :: done).length := by simp
    rw [insertClamped, hmin] at ih
    rw [insertClamped, hmin']
    simpa using ih

theorem insertClamped_end (items : List α) (item : α) :
    insertClamped items items.length item = items ++ [item] := by
  simpa using insertClamped_length items [] item

/-- The invariant of putting back: `done` is the part of the list in front of the next position
that is rebuilt already, and `behind` is not concerned. -/
theorem insertPositioned_rebuild (p : α → Bool) (done items behind : List α) :
    insertPositioned (done ++ ((items.filter fun item => !p item) ++ behind))
        ((positionedFrom done.length items).filter fun entry => p entry.2) =
      done ++ (items ++ behind) := by
  induction items generalizing done with
  | nil => simp [insertPositioned]
  | cons item items ih =>
    have hnext := ih (done ++ [item])
    rw [List.length_append, List.length_singleton] at hnext
    cases h : p item with
    | true =>
      simp only [positionedFrom_cons, List.filter_cons, h, Bool.not_true, Bool.false_eq_true,
        if_false, if_true]
      rw [insertPositioned, List.foldl_cons, insertClamped_length]
      simpa [insertPositioned] using hnext
    | false =>
      simp only [positionedFrom_cons, List.filter_cons, h, Bool.not_false, Bool.false_eq_true,
        if_false, if_true]
      simpa using hnext

/-- Putting the taken items back at their positions restores the list. -/
theorem insertPositioned_takePositioned (p : α → Bool) (items : List α) :
    insertPositioned (takePositioned p items).2 (takePositioned p items).1 = items := by
  rw [takePositioned_fst, takePositioned_snd]
  simpa using insertPositioned_rebuild p [] items []

/-- What is taken before an item are the items in front of it that satisfy the predicate. -/
theorem exists_front_of_positionedFrom {p : α → Bool} {start : Nat} {items : List α}
    {before after : List (Nat × α)} {entry : Nat × α}
    (h : ((positionedFrom start items).filter fun entry => p entry.2) = before ++ entry :: after) :
    ∃ front rest, items = front ++ entry.2 :: rest ∧ entry.1 = start + front.length ∧
      p entry.2 = true ∧ before = (positionedFrom start front).filter fun entry => p entry.2 := by
  induction items generalizing start before with
  | nil => simp at h
  | cons item items ih =>
    cases hitem : p item with
    | true =>
      simp only [positionedFrom_cons, List.filter_cons, hitem, if_true] at h
      cases before with
      | nil =>
        obtain ⟨rfl, -⟩ := List.cons.inj h
        exact ⟨[], items, rfl, rfl, hitem, rfl⟩
      | cons first before =>
        obtain ⟨rfl, hmore⟩ := List.cons.inj h
        obtain ⟨front, rest, rfl, hposition, hentry, rfl⟩ := ih hmore
        refine ⟨item :: front, rest, rfl, ?_, hentry, by simp [hitem]⟩
        rw [hposition, List.length_cons]
        omega
    | false =>
      simp only [positionedFrom_cons, List.filter_cons, hitem, Bool.false_eq_true, if_false] at h
      obtain ⟨front, rest, rfl, hposition, hentry, rfl⟩ := ih h
      refine ⟨item :: front, rest, rfl, ?_, hentry, by simp [hitem]⟩
      rw [hposition, List.length_cons]
      omega

/-- When an item is put back, everything in front of it is in its place and nothing else is. -/
theorem insertPositioned_before {p : α → Bool} {items : List α} {before after : List (Nat × α)}
    {entry : Nat × α} (h : (takePositioned p items).1 = before ++ entry :: after) :
    ∃ front rest, items = front ++ entry.2 :: rest ∧ entry.1 = front.length ∧
      insertPositioned (takePositioned p items).2 before =
        front ++ rest.filter fun item => !p item := by
  rw [takePositioned_fst] at h
  obtain ⟨front, rest, rfl, hposition, hentry, rfl⟩ := exists_front_of_positionedFrom h
  refine ⟨front, rest, rfl, by rw [hposition, Nat.zero_add], ?_⟩
  have hkept : (takePositioned p (front ++ entry.2 :: rest)).2 =
      (front.filter fun item => !p item) ++ rest.filter fun item => !p item := by
    simp [takePositioned_snd, hentry]
  rw [hkept]
  exact insertPositioned_rebuild p [] front _

/-- Items taken out of a list and the items kept are those of the list in their order, and putting
back what was taken restores the list.  No position lies behind the end of the list that has been
rebuilt when its turn comes. -/
theorem takePositioned_reversible (p : α → Bool) (items : List α) :
    let taken := (takePositioned p items).1
    let kept := (takePositioned p items).2
    insertPositioned kept taken = items ∧
      taken.map Prod.snd = items.filter p ∧ (kept = items.filter fun item => !p item) ∧
      (taken.map Prod.snd ++ kept).Perm items ∧
      ∀ before entry after, taken = before ++ entry :: after →
        entry.1 ≤ (insertPositioned kept before).length := by
  intro taken kept
  have htaken : taken.map Prod.snd = items.filter p := takePositioned_fst_map_snd p items
  have hkept : kept = items.filter fun item => !p item := takePositioned_snd p items
  refine ⟨insertPositioned_takePositioned p items, htaken, hkept, ?_,
    fun before entry after hsplit => ?_⟩
  · rw [htaken, hkept]
    exact List.filter_append_perm p items
  · obtain ⟨front, rest, -, hposition, hbefore⟩ := insertPositioned_before hsplit
    rw [hposition, hbefore, List.length_append]
    exact Nat.le_add_right _ _

/-- The second of three even numbers goes back to its place behind two others. -/
theorem takePositioned_reversible_even :
    let even := fun number : Nat => number % 2 == 0
    (takePositioned even [3, 4, 6, 7, 8]).1 = [(1, 4)] ++ (2, 6) :: [(4, 8)] ∧
      2 ≤ (insertPositioned (takePositioned even [3, 4, 6, 7, 8]).2 [(1, 4)]).length := by
  intro even
  obtain ⟨-, -, -, -, hclamp⟩ := takePositioned_reversible even [3, 4, 6, 7, 8]
  exact ⟨rfl, hclamp [(1, 4)] (2, 6) [(4, 8)] rfl⟩

/-- Items at the positions behind a list are appended. -/
theorem insertPositioned_positionedFrom_length (items more : List α) :
    insertPositioned items (positionedFrom items.length more) = items ++ more := by
  have h := insertPositioned_rebuild (fun _ => true) items more []
  have hall : (positionedFrom items.length more).filter (fun _ => true) =
      positionedFrom items.length more := by simp
  have hnone : more.filter (fun _ => !true) = [] := by simp
  rw [hall, hnone, List.append_nil, List.append_nil, List.append_nil] at h
  exact h

/-! ## Changing the first item -/

theorem find?_updateFirst {p : α → Bool} {change : α → α} {items : List α} {item : α}
    (hfind : items.find? p = some item) (hchange : p (change item) = true) :
    (updateFirst p change items).find? p = some (change item) := by
  induction items with
  | nil => simp at hfind
  | cons first rest ih =>
    cases h : p first with
    | true =>
      obtain rfl : first = item := by simpa [h] using hfind
      simp [updateFirst, h, hchange]
    | false =>
      have hrest : rest.find? p = some item := by simpa [h] using hfind
      simp [updateFirst, h, ih hrest]

theorem updateFirst_congr {p : α → Bool} {change change' : α → α} {items : List α} {item : α}
    (hfind : items.find? p = some item) (h : change item = change' item) :
    updateFirst p change items = updateFirst p change' items := by
  induction items with
  | nil => rfl
  | cons first rest ih =>
    cases hp : p first with
    | true =>
      obtain rfl : first = item := by simpa [hp] using hfind
      simp [updateFirst, hp, h]
    | false =>
      have hrest : rest.find? p = some item := by simpa [hp] using hfind
      simp [updateFirst, hp, ih hrest]

theorem updateFirst_eq_self {p : α → Bool} {change : α → α} {items : List α} {item : α}
    (hfind : items.find? p = some item) (h : change item = item) :
    updateFirst p change items = items := by
  have hid : updateFirst p change items = updateFirst p id items := updateFirst_congr hfind h
  rw [hid]
  clear hfind h hid
  induction items with
  | nil => rfl
  | cons first rest ih => cases hp : p first <;> simp [updateFirst, hp, ih]

/-- Two changes of the first item, where the first one keeps it the first. -/
theorem updateFirst_updateFirst {p : α → Bool} {change again : α → α} {items : List α} {item : α}
    (hfind : items.find? p = some item) (hchange : p (change item) = true) :
    updateFirst p again (updateFirst p change items) =
      updateFirst p (fun item => again (change item)) items := by
  induction items with
  | nil => rfl
  | cons first rest ih =>
    cases h : p first with
    | true =>
      obtain rfl : first = item := by simpa [h] using hfind
      simp [updateFirst, h, hchange]
    | false =>
      have hrest : rest.find? p = some item := by simpa [h] using hfind
      simp [updateFirst, h, ih hrest]

/-- A change that can be taken back leaves no trace on the list. -/
theorem updateFirst_cancel {p : α → Bool} {change back : α → α} {items : List α} {item : α}
    (hfind : items.find? p = some item) (hchange : p (change item) = true)
    (hback : back (change item) = item) :
    updateFirst p back (updateFirst p change items) = items := by
  rw [updateFirst_updateFirst hfind hchange]
  exact updateFirst_eq_self hfind hback

theorem map_updateFirst {β : Type} {p : α → Bool} {change : α → α} {f : α → β}
    (h : ∀ item, f (change item) = f item) (items : List α) :
    (updateFirst p change items).map f = items.map f := by
  induction items with
  | nil => rfl
  | cons first rest ih => cases hp : p first <;> simp [updateFirst, hp, h, ih]

/-! ## Removing the first item -/

/-- The first item that satisfies the predicate stands at its position. -/
theorem insertClamped_eraseIdx_findIdx {p : α → Bool} {items : List α} {item : α}
    (hfind : items.find? p = some item) :
    insertClamped (items.eraseIdx (items.findIdx p)) (items.findIdx p) item = items := by
  induction items with
  | nil => simp at hfind
  | cons first rest ih =>
    cases h : p first with
    | true =>
      obtain rfl : first = item := by simpa [h] using hfind
      simp [List.findIdx_cons, h, insertClamped]
    | false =>
      have hrest : rest.find? p = some item := by simpa [h] using hfind
      have hnext := ih hrest
      simp only [List.findIdx_cons, h, cond_false, List.eraseIdx_cons_succ]
      unfold insertClamped at hnext ⊢
      rw [List.length_cons, Nat.succ_min_succ, List.insertIdx_succ_cons, hnext]

/-- An item put behind a list is found and erased there if nothing in the list is like it. -/
theorem eraseIdx_findIdx_append {p : α → Bool} {items : List α} {item : α}
    (hnone : ∀ other ∈ items, p other = false) (hitem : p item = true) :
    (items ++ [item]).find? p = some item ∧
      (items ++ [item]).eraseIdx ((items ++ [item]).findIdx p) = items := by
  induction items with
  | nil => simp [List.findIdx_cons, hitem]
  | cons first rest ih =>
    have hfirst : p first = false := hnone first List.mem_cons_self
    obtain ⟨hfind, herase⟩ := ih fun other hother => hnone other (List.mem_cons_of_mem _ hother)
    constructor
    · simp [hfirst, hfind]
    · simp [List.findIdx_cons, hfirst, herase]

end SchemaDiagram
