import SchemaDiagram.Proofs.Text.Words
import SchemaDiagram.Text.Lowercase

/-!
# Spellings in lower case

Capital letters of ASCII and their small forms are cased alike and are no marks to be passed over,
so that the lower-case form of a text does not depend on the case of the ASCII letters in it, not
even where a sigma looks for the end of its word.
-/

namespace SchemaDiagram.Text

/-- Only the 26 capitals of ASCII have another lower-case form of ASCII. -/
theorem toLower_eq_or_capital (c : Char) :
    c.toLower = c ∨ ∃ letter < 26, c = Char.ofNat ('A'.toNat + letter) := by
  by_cases hcapital : 'A'.toNat ≤ c.toNat ∧ c.toNat ≤ 'Z'.toNat
  · have hlast : 'Z'.toNat < 'A'.toNat + 26 := by decide
    refine .inr ⟨c.toNat - 'A'.toNat, by omega, ?_⟩
    rw [Nat.add_sub_cancel' hcapital.1, Char.ofNat_toNat]
  · refine .inl (dif_neg fun hletter => hcapital ?_)
    exact ⟨UInt32.le_iff_toNat_le.mp hletter.1, UInt32.le_iff_toNat_le.mp hletter.2⟩

/-- What holds of the capitals of ASCII and is said of a character and its small form holds of all
characters. -/
theorem toLower_congr {α : Type} (property : Char → α)
    (h : ∀ letter < 26, property (Char.ofNat ('A'.toNat + letter)).toLower =
      property (Char.ofNat ('A'.toNat + letter))) (c : Char) :
    property c.toLower = property c := by
  rcases toLower_eq_or_capital c with hsame | ⟨letter, hletter, rfl⟩
  · rw [hsame]
  · exact h letter hletter

theorem isCased_toLower (c : Char) : isCased c.toLower = isCased c :=
  toLower_congr isCased (by decide) c

theorem isCaseIgnorable_toLower (c : Char) : isCaseIgnorable c.toLower = isCaseIgnorable c :=
  toLower_congr isCaseIgnorable (by decide) c

theorem lowerChar_toLower (c : Char) : lowerChar c.toLower = lowerChar c :=
  toLower_congr lowerChar (by decide) c

theorem isBlank_toLower (c : Char) : isBlank c.toLower = isBlank c :=
  toLower_congr isBlank (by decide) c

theorem toLower_eq_sigma_iff (c : Char) : c.toLower = 'Σ' ↔ c = 'Σ' := by
  have h := toLower_congr (fun c => decide (c = 'Σ')) (by decide) c
  simpa using h

theorem startsCased_map_toLower (text : List Char) :
    startsCased (text.map Char.toLower) = startsCased text := by
  have hdrop : (text.map Char.toLower).dropWhile isCaseIgnorable =
      (text.dropWhile isCaseIgnorable).map Char.toLower := by
    have hsame : isCaseIgnorable ∘ Char.toLower = isCaseIgnorable :=
      funext isCaseIgnorable_toLower
    rw [List.dropWhile_map, hsame]
  unfold startsCased
  rw [hdrop]
  cases text.dropWhile isCaseIgnorable with
  | nil => rfl
  | cons c rest => exact isCased_toLower c

theorem lowercaseFrom_map_toLower (afterCased : Bool) (text : List Char) :
    lowercaseFrom afterCased (text.map Char.toLower) = lowercaseFrom afterCased text := by
  induction text generalizing afterCased with
  | nil => rfl
  | cons c rest ih =>
      simp only [List.map_cons, lowercaseFrom, toLower_eq_sigma_iff, startsCased_map_toLower,
        isCaseIgnorable_toLower, isCased_toLower, lowerChar_toLower, ih]

/-- Texts that are equal up to the case of ASCII letters have one lower-case form. -/
theorem lowercase_eq_of_equalIgnoringCase {first second : List Char}
    (h : equalIgnoringCase first second = true) : lowercase first = lowercase second := by
  rw [lowercase, lowercase, ← lowercaseFrom_map_toLower false first, beq_iff_eq.mp h,
    lowercaseFrom_map_toLower]

/-! ## Blanks around a text -/

theorem trim_map_toLower (text : List Char) :
    trim (text.map Char.toLower) = (trim text).map Char.toLower := by
  have hsame : isBlank ∘ Char.toLower = isBlank := funext isBlank_toLower
  have hdrop : ∀ part : List Char,
      (part.map Char.toLower).dropWhile isBlank = (part.dropWhile isBlank).map Char.toLower := by
    intro part
    rw [List.dropWhile_map, hsame]
  rw [trim, trim, trimStart, trimStart, hdrop, trimEnd, trimEnd, dropEndWhile, dropEndWhile,
    ← List.map_reverse, hdrop, List.map_reverse]

/-- A text with blanks in front of it and behind it. -/
def Padded (core text : List Char) : Prop :=
  ∃ front back, (∀ c ∈ front, isBlank c = true) ∧ (∀ c ∈ back, isBlank c = true) ∧
    text = front ++ (core ++ back)

theorem dropWhile_blanks_append {gap : List Char} (h : ∀ c ∈ gap, isBlank c = true)
    (rest : List Char) : (gap ++ rest).dropWhile isBlank = rest.dropWhile isBlank := by
  rw [List.dropWhile_append, List.dropWhile_eq_nil_iff.mpr h]
  rfl

theorem Padded.trim_eq {core text : List Char} (h : Padded core text) : trim text = trim core := by
  obtain ⟨front, back, hfront, hback, rfl⟩ := h
  have hbehind : ∀ part : List Char, trimEnd (part ++ back) = trimEnd part := by
    intro part
    rw [trimEnd, dropEndWhile, List.reverse_append, dropWhile_blanks_append, trimEnd, dropEndWhile]
    exact fun c hc => hback c (List.mem_reverse.mp hc)
  rw [trim, trim, trimStart, trimStart, dropWhile_blanks_append hfront, List.dropWhile_append]
  split
  · next hempty =>
    rw [List.isEmpty_iff.mp hempty, List.dropWhile_eq_nil_iff.mpr hback]
  · exact hbehind _

/-- Two spellings of a text: apart from the blanks around it they differ in nothing but the case of
ASCII letters. -/
def Respelled (first second : String) : Prop :=
  ∃ core other, Padded core first.toList ∧ Padded other second.toList ∧
    equalIgnoringCase core other = true

theorem Respelled.lowered_trimmed {first second : String} (h : Respelled first second) :
    lowered (trimmed first) = lowered (trimmed second) := by
  obtain ⟨core, other, hfirst, hsecond, hsame⟩ := h
  have htrim : equalIgnoringCase (trim core) (trim other) = true := by
    rw [equalIgnoringCase, ← trim_map_toLower, ← trim_map_toLower, beq_iff_eq.mp hsame,
      beq_self_eq_true]
  simp only [lowered, trimmed, String.toList_ofList, hfirst.trim_eq, hsecond.trim_eq,
    lowercase_eq_of_equalIgnoringCase htrim]

end SchemaDiagram.Text
