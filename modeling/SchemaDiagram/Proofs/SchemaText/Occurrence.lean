import SchemaDiagram.SchemaText.Occurrence

/-!
# Finding constructs in a text of known shape

A text is searched from left to right.  Where the recogniser fails at every position of a segment,
the segment ends up as plain text; where it takes a segment, the search goes on behind it.
-/

namespace SchemaDiagram.SchemaText.Occurrences

variable {α : Type} {recognise : Recogniser α}

/-- Put plain text in front. -/
def behind (before : List Char) (rest : Occurrences α) : Occurrences α :=
  before.foldr plain rest

@[simp] theorem items_plain (c : Char) (rest : Occurrences α) :
    (plain c rest).items = rest.items := by
  obtain ⟨found, tail⟩ := rest
  cases found <;> rfl

@[simp] theorem items_item (value : α) (rest : Occurrences α) :
    (item value rest).items = value :: rest.items := rfl

@[simp] theorem behind_tail (before tail : List Char) :
    behind before (⟨[], tail⟩ : Occurrences α) = ⟨[], before ++ tail⟩ := by
  induction before with
  | nil => rfl
  | cons c before ih =>
      change plain c (behind before ⟨[], tail⟩) = _
      rw [ih]
      rfl

@[simp] theorem behind_found (before front : List Char) (value : α)
    (more : List (List Char × α)) (tail : List Char) :
    behind before ⟨(front, value) :: more, tail⟩ = ⟨(before ++ front, value) :: more, tail⟩ := by
  induction before with
  | nil => rfl
  | cons c before ih =>
      change plain c (behind before ⟨(front, value) :: more, tail⟩) = _
      rw [ih]
      rfl

/-- The character in front of what follows a text. -/
def lastOf (previous : Option Char) (before : List Char) : Option Char :=
  before.getLast?.or previous

theorem lastOf_cons (previous : Option Char) (c : Char) (before : List Char) :
    lastOf (some c) before = lastOf previous (c :: before) := by
  cases before with
  | nil => rfl
  | cons d before =>
      rw [lastOf, lastOf, List.getLast?_cons_cons]
      cases hlast : (d :: before).getLast? with
      | none => simp at hlast
      | some e => rfl

/-! ## Steps of the search -/

theorem find_nil (previous : Option Char) : find recognise previous [] = ⟨[], []⟩ := by
  rw [find]

theorem find_cons_of_none {previous : Option Char} {c : Char} {rest : List Char}
    (h : recognise previous (c :: rest) = none) :
    find recognise previous (c :: rest) = plain c (find recognise (some c) rest) := by
  rw [find, h]

/-- A construct that is taken is found, and the search goes on behind it. -/
theorem find_append_of_some {previous : Option Char} {found after : List Char} {value : α}
    (hfound : found ≠ []) (h : recognise previous (found ++ after) = some (value, after)) :
    find recognise previous (found ++ after) =
      item value (find recognise (lastOf previous found) after) := by
  have hlast : lastBefore (found ++ after) after = lastOf previous found := by
    rw [lastBefore, lastOf, List.length_append, Nat.add_sub_cancel, List.take_left]
    cases hlast : found.getLast? with
    | none => exact absurd (List.getLast?_eq_none_iff.mp hlast) hfound
    | some c => rfl
  cases found with
  | nil => exact absurd rfl hfound
  | cons c found =>
      rw [List.cons_append] at h hlast ⊢
      rw [find, h]
      have hshorter : after.length < (c :: (found ++ after)).length := by
        simp only [List.length_cons, List.length_append]
        omega
      simp only [hshorter, dite_true, hlast]

/-- The recogniser fails at every position of a segment in front of a given text. -/
def Skips (recognise : Recogniser α) (text : List Char) : Option Char → List Char → Prop
  | _, [] => True
  | previous, c :: segment =>
    recognise previous (c :: segment ++ text) = none ∧ Skips recognise text (some c) segment

/-- A segment on which the recogniser fails is plain text. -/
theorem find_append_of_skips {previous : Option Char} {segment text : List Char}
    (h : Skips recognise text previous segment) :
    find recognise previous (segment ++ text) =
      behind segment (find recognise (lastOf previous segment) text) := by
  induction segment generalizing previous with
  | nil => rfl
  | cons c segment ih =>
      obtain ⟨hnone, hmore⟩ := h
      rw [List.cons_append] at hnone ⊢
      rw [find_cons_of_none hnone, ih hmore, lastOf_cons previous]
      rfl

theorem skips_append {previous : Option Char} {segment more text : List Char}
    (h : Skips recognise (more ++ text) previous segment)
    (hmore : Skips recognise text (lastOf previous segment) more) :
    Skips recognise text previous (segment ++ more) := by
  induction segment generalizing previous with
  | nil => exact hmore
  | cons c segment ih =>
      obtain ⟨hnone, hrest⟩ := h
      rw [← lastOf_cons] at hmore
      refine ⟨?_, ih hrest hmore⟩
      rwa [List.cons_append, ← List.append_assoc] at hnone

theorem skips_of_suffix {segment text : List Char}
    (h : ∀ previous suffix, suffix <:+ segment → suffix ≠ [] →
      recognise previous (suffix ++ text) = none) (previous : Option Char) :
    Skips recognise text previous segment := by
  induction segment generalizing previous with
  | nil => trivial
  | cons c segment ih =>
      refine ⟨h previous (c :: segment) (List.suffix_refl _) (List.cons_ne_nil _ _), ?_⟩
      exact ih (fun last suffix hsuffix => h last suffix (hsuffix.trans (List.suffix_cons c _)))
        (some c)

theorem skips_of_split {previous : Option Char} {segment text : List Char}
    (h : ∀ front c behind, segment = front ++ c :: behind →
      recognise (lastOf previous front) (c :: behind ++ text) = none) :
    Skips recognise text previous segment := by
  induction segment generalizing previous with
  | nil => trivial
  | cons c segment ih =>
      refine ⟨h [] c segment rfl, ih fun front d behind hsplit => ?_⟩
      rw [lastOf_cons previous]
      exact h (c :: front) d behind (congrArg (c :: ·) hsplit)

/-! ## Two texts next to each other -/

@[simp] theorem items_behind (before : List Char) (rest : Occurrences α) :
    (behind before rest).items = rest.items := by
  induction before with
  | nil => rfl
  | cons c before ih => exact (items_plain c _).trans ih

theorem behind_append (before more : List Char) (rest : Occurrences α) :
    behind (before ++ more) rest = behind before (behind more rest) :=
  List.foldr_append

/-- Two cuts as one: the plain text behind the last construct of the first goes on in the second. -/
def append (first second : Occurrences α) : Occurrences α :=
  ⟨first.found ++ (behind first.tail second).found, (behind first.tail second).tail⟩

@[simp] theorem append_of_none (tail : List Char) (second : Occurrences α) :
    append ⟨[], tail⟩ second = behind tail second := rfl

theorem plain_append (c : Char) (first second : Occurrences α) :
    (plain c first).append second = plain c (first.append second) := by
  obtain ⟨found, tail⟩ := first
  cases found <;> rfl

theorem item_append (value : α) (first second : Occurrences α) :
    (item value first).append second = item value (first.append second) := rfl

@[simp] theorem items_append (first second : Occurrences α) :
    (first.append second).items = first.items ++ second.items := by
  change (first.found ++ (behind first.tail second).found).map Prod.snd = _
  rw [List.map_append]
  exact congrArg (first.items ++ ·) (items_behind first.tail second)

/-- With a mark between two cuts, the last piece of the first one, the mark and the first piece of
the second one become one piece. -/
theorem exists_pieces_append (first second : Occurrences α) (mark : Char) :
    ∃ fronts front more, first.pieces = fronts ++ [first.tail] ∧ second.pieces = front :: more ∧
      (first.append (plain mark second)).pieces =
        fronts ++ (first.tail ++ mark :: front) :: more := by
  obtain ⟨found, tail⟩ := second
  cases found with
  | nil => exact ⟨_, tail, [], rfl, rfl, by simp [pieces, append, plain]⟩
  | cons entry found =>
      obtain ⟨front, value⟩ := entry
      exact ⟨_, front, found.map Prod.fst ++ [tail], rfl, rfl, by simp [pieces, append, plain]⟩

/-- What a recogniser takes from a text does not depend on whether another text follows. -/
def Unaffected (recognise : Recogniser α) (more : List Char) : Prop :=
  ∀ previous text, recognise previous (text ++ more) =
    (recognise previous text).map fun found => (found.1, found.2 ++ more)

theorem find_of_empty {mark : Char} {more : List Char} (h : Unaffected recognise (mark :: more))
    (hempty : ∀ previous, recognise previous [] = none) (previous : Option Char) :
    find recognise previous (mark :: more) = plain mark (find recognise (some mark) more) := by
  apply find_cons_of_none
  have hmark := h previous []
  rwa [List.nil_append, hempty] at hmark

/-- If a text is not affected by the one that follows it, both are searched one after the other. -/
theorem find_append {mark : Char} {more : List Char} (h : Unaffected recognise (mark :: more))
    (hempty : ∀ previous, recognise previous [] = none) (previous : Option Char)
    (text : List Char) :
    find recognise previous (text ++ mark :: more) =
      (find recognise previous text).append (plain mark (find recognise (some mark) more)) := by
  fun_induction find recognise previous text with
  | case1 previous => exact find_of_empty h hempty previous
  | case2 previous c rest value after htake hshorter ih =>
      have htaken := h previous (c :: rest)
      rw [htake, Option.map_some] at htaken
      have hlonger : (after ++ mark :: more).length < (c :: rest ++ mark :: more).length := by
        simp only [List.length_append]
        omega
      have hlast : lastBefore (c :: rest ++ mark :: more) (after ++ mark :: more) =
          lastBefore (c :: rest) after := by
        simp only [lastBefore, List.length_append, Nat.add_sub_add_right]
        rw [List.take_append_of_le_length (Nat.sub_le _ _)]
      rw [item_append, ← ih, ← hlast]
      rw [List.cons_append] at htaken hlonger ⊢
      rw [find, htaken]
      simp only [hlonger, dite_true]
  | case3 previous c rest value after htake hlonger ih =>
      have htaken := h previous (c :: rest)
      rw [htake, Option.map_some] at htaken
      have hnone : ¬(after ++ mark :: more).length < (c :: rest ++ mark :: more).length := by
        simp only [List.length_append]
        omega
      rw [plain_append, ← ih]
      rw [List.cons_append] at htaken hnone ⊢
      rw [find, htaken]
      simp only [hnone, dite_false]
  | case4 previous c rest hnone ih =>
      have htaken := h previous (c :: rest)
      rw [hnone, Option.map_none] at htaken
      rw [plain_append, ← ih]
      exact find_cons_of_none htaken

/-- Where a recogniser does not tell two characters in front of a text apart, neither does the
search. -/
theorem find_congr {first second : Option Char} (h : recognise first = recognise second)
    (text : List Char) : find recognise first text = find recognise second text := by
  cases text with
  | nil => rw [find_nil, find_nil]
  | cons c rest => rw [find, find, h]

end SchemaDiagram.SchemaText.Occurrences
