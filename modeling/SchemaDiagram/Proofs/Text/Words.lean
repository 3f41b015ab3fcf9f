import Mathlib.Data.List.DropRight
import Mathlib.Data.List.TakeDrop
import SchemaDiagram.Text.Word

/-!
# Words and blanks

What the text functions do on texts of a known shape: a word is taken up to the first character that
belongs to no word, a fixed text is found where it stands, and trimming leaves alone what neither
starts nor ends with a blank.  No character is both a blank and part of a word.
-/

namespace SchemaDiagram.Text

/-! ## Runs of characters -/

theorem takeWhile_append_stop {α : Type} {p : α → Bool} {taken rest : List α}
    (htaken : ∀ c ∈ taken, p c = true) (hrest : rest.head?.any p = false) :
    (taken ++ rest).takeWhile p = taken := by
  rw [List.takeWhile_append_of_pos htaken]
  cases rest with
  | nil => simp
  | cons c rest =>
      have hc : p c = false := by simpa using hrest
      simp [hc]

theorem dropWhile_append_stop {α : Type} {p : α → Bool} {taken rest : List α}
    (htaken : ∀ c ∈ taken, p c = true) (hrest : rest.head?.any p = false) :
    (taken ++ rest).dropWhile p = rest := by
  rw [List.dropWhile_append_of_pos htaken]
  cases rest with
  | nil => simp
  | cons c rest =>
      have hc : p c = false := by simpa using hrest
      simp [hc]

theorem dropWhile_of_head {α : Type} {p : α → Bool} {text : List α}
    (h : text.head?.any p = false) : text.dropWhile p = text := by
  cases text with
  | nil => rfl
  | cons c text =>
      have hc : p c = false := by simpa using h
      rw [List.dropWhile_cons_of_neg (by simp [hc])]

/-- The characters in front of the first mark, and what follows them. -/
theorem takeWhile_dropWhile_mark {mark : Char} {taken : List Char} (h : mark ∉ taken)
    (rest : List Char) :
    (taken ++ mark :: rest).takeWhile (· != mark) = taken ∧
      (taken ++ mark :: rest).dropWhile (· != mark) = mark :: rest := by
  have htaken : ∀ c ∈ taken, (c != mark) = true := by
    intro c hc
    rw [bne_iff_ne]
    rintro rfl
    exact h hc
  exact ⟨takeWhile_append_stop htaken (by simp), dropWhile_append_stop htaken (by simp)⟩

/-! ## Words -/

theorem isWord_iff {text : List Char} :
    isWord text = true ↔ text ≠ [] ∧ ∀ c ∈ text, isWordChar c = true := by
  simp [isWord]

theorem exists_of_isWord {text : List Char} (h : isWord text = true) :
    ∃ c rest, text = c :: rest ∧ isWordChar c = true := by
  obtain ⟨hnonempty, hall⟩ := isWord_iff.mp h
  cases text with
  | nil => exact absurd rfl hnonempty
  | cons c rest => exact ⟨c, rest, rfl, hall c List.mem_cons_self⟩

theorem ne_of_isWordChar {c other : Char} (h : isWordChar c = true)
    (hother : isWordChar other = false) : c ≠ other := by
  rintro rfl
  rw [h] at hother
  cases hother

/-- No character outside of words stands in a word. -/
theorem not_mem_of_isWord {text : List Char} {c : Char} (h : isWord text = true)
    (hc : isWordChar c = false) : c ∉ text := by
  intro hmem
  exact ne_of_isWordChar ((isWord_iff.mp h).2 c hmem) hc rfl

/-- A word is taken whole. -/
theorem takeWord?_append {text rest : List Char} (h : isWord text = true)
    (hrest : rest.head?.any isWordChar = false) :
    takeWord? (text ++ rest) = some (text, rest) := by
  obtain ⟨hnonempty, hall⟩ := isWord_iff.mp h
  rw [takeWord?, List.span_eq_takeWhile_dropWhile, takeWhile_append_stop hall hrest,
    dropWhile_append_stop hall hrest]
  cases text with
  | nil => exact absurd rfl hnonempty
  | cons c text => rfl

theorem head?_any_dropWhile {α : Type} (p : α → Bool) (text : List α) :
    (text.dropWhile p).head?.any p = false := by
  have hnot := List.head?_dropWhile_not p text
  cases hhead : (text.dropWhile p).head? with
  | none => rfl
  | some c => simpa [hhead] using hnot

/-- A word is taken exactly if it stands in front of something else. -/
theorem takeWord?_eq_some_iff {text word rest : List Char} :
    takeWord? text = some (word, rest) ↔
      isWord word = true ∧ rest.head?.any isWordChar = false ∧ text = word ++ rest := by
  constructor
  · intro h
    rw [takeWord?, List.span_eq_takeWhile_dropWhile] at h
    split at h
    · cases h
    · next taken behind hnonempty heq =>
        obtain ⟨rfl, rfl⟩ := Prod.mk.inj (Option.some.inj h)
        obtain ⟨htaken, hbehind⟩ := Prod.mk.inj heq
        refine ⟨isWord_iff.mpr ⟨fun hempty => hnonempty hempty, fun c hc => ?_⟩, ?_, ?_⟩
        · rw [← htaken] at hc
          exact List.mem_takeWhile_imp hc
        · rw [← hbehind]
          exact head?_any_dropWhile isWordChar text
        · rw [← htaken, ← hbehind, List.takeWhile_append_dropWhile]
  · rintro ⟨hword, hrest, rfl⟩
    exact takeWord?_append hword hrest

theorem takeWord?_suffix {text word rest : List Char} (h : takeWord? text = some (word, rest)) :
    rest <:+ text := by
  obtain ⟨-, -, rfl⟩ := takeWord?_eq_some_iff.mp h
  exact List.suffix_append word rest

@[simp] theorem afterPrefix?_append (mark rest : List Char) :
    afterPrefix? mark (mark ++ rest) = some rest := by
  induction mark with
  | nil => rfl
  | cons c mark ih => simp [afterPrefix?, ih]

theorem afterPrefix?_eq_some {mark text rest : List Char}
    (h : afterPrefix? mark text = some rest) : text = mark ++ rest := by
  induction mark generalizing text with
  | nil => simpa [afterPrefix?] using h
  | cons p mark ih =>
      cases text with
      | nil => simp [afterPrefix?] at h
      | cons c text =>
          simp only [afterPrefix?] at h
          split at h
          · next heq =>
              obtain rfl := eq_of_beq heq
              rw [ih h, List.cons_append]
          · cases h

/-! ## Blanks -/

/-- The code points of the blanks. -/
def blankPoints : List Nat :=
  blankRanges.flatMap fun range => List.range' range.1 (range.2 + 1 - range.1)

theorem mem_blankPoints {c : Char} (h : isBlank c = true) : c.toNat ∈ blankPoints := by
  simp only [isBlank, inRanges, List.any_eq_true, Bool.and_eq_true] at h
  obtain ⟨range, hmem, hlow, hhigh⟩ := h
  refine List.mem_flatMap.mpr ⟨range, hmem, ?_⟩
  rw [List.mem_range'_1]
  have hlow := Nat.le_of_ble_eq_true hlow
  have hhigh := Nat.le_of_ble_eq_true hhigh
  omega

theorem isWordChar_blankPoints :
    ∀ point ∈ blankPoints, isWordChar (Char.ofNat point) = false := by decide +kernel

/-- A blank belongs to no word. -/
theorem isWordChar_of_isBlank {c : Char} (h : isBlank c = true) : isWordChar c = false := by
  have hpoint := isWordChar_blankPoints c.toNat (mem_blankPoints h)
  rwa [Char.ofNat_toNat] at hpoint

theorem isBlank_of_isWordChar {c : Char} (h : isWordChar c = true) : isBlank c = false := by
  cases hblank : isBlank c with
  | false => rfl
  | true =>
      rw [isWordChar_of_isBlank hblank] at h
      cases h

theorem isInlineBlank_of_isWordChar {c : Char} (h : isWordChar c = true) :
    isInlineBlank c = false := by
  have hspace : c ≠ ' ' := ne_of_isWordChar h (by decide)
  have htab : c ≠ '\t' := ne_of_isWordChar h (by decide)
  simp [isInlineBlank, hspace, htab]

/-! ## Trimming -/

theorem trimStart_of_head {text : List Char} (h : text.head?.any isBlank = false) :
    trimStart text = text :=
  dropWhile_of_head h

theorem trimEnd_append_blank {text : List Char} {c : Char} (h : isBlank c = true) :
    trimEnd (text ++ [c]) = trimEnd text := by
  simp [trimEnd, dropEndWhile, h]

theorem trimEnd_prefix (text : List Char) : trimEnd text <+: text := by
  rw [trimEnd, dropEndWhile, ← List.reverse_suffix, List.reverse_reverse]
  exact List.dropWhile_suffix isBlank

theorem trimEnd_trimEnd (text : List Char) : trimEnd (trimEnd text) = trimEnd text := by
  simp [trimEnd, dropEndWhile, List.dropWhile_idempotent]

/-- A text is as trimmed as it gets once it was trimmed. -/
theorem trim_trim (text : List Char) : trim (trim text) = trim text := by
  have hhead : (trim text).head?.any isBlank = false := by
    have hstart : (trimStart text).head?.any isBlank = false := head?_any_dropWhile isBlank text
    obtain ⟨rest, hrest⟩ := trimEnd_prefix (trimStart text)
    rw [trim]
    cases htrimmed : trimEnd (trimStart text) with
    | nil => rfl
    | cons c more =>
        rw [← hrest, htrimmed] at hstart
        simpa using hstart
  rw [trim, trimStart_of_head hhead, trim, trimEnd_trimEnd]

/-- Trimming takes the blank behind a trimmed text away again. -/
theorem trim_append_blank {text : List Char} {c : Char} (htext : trim text = text)
    (hhead : text.head?.any isBlank = false) (hnonempty : text ≠ []) (hc : isBlank c = true) :
    trim (text ++ [c]) = text := by
  have hstart : (text ++ [c]).head?.any isBlank = false := by
    cases text with
    | nil => exact absurd rfl hnonempty
    | cons first text => simpa using hhead
  rw [trim, trimStart_of_head hstart, trimEnd_append_blank hc]
  rwa [trim, trimStart_of_head hhead] at htext

theorem trim_of_not_blank {text : List Char} (h : ∀ c ∈ text, isBlank c = false) :
    trim text = text := by
  have hdrop : ∀ part : List Char, (∀ c ∈ part, isBlank c = false) →
      part.dropWhile isBlank = part := by
    intro part hpart
    apply dropWhile_of_head
    cases part with
    | nil => rfl
    | cons c part => simpa using hpart c List.mem_cons_self
  have hreverse : ∀ c ∈ text.reverse, isBlank c = false :=
    fun c hc => h c (List.mem_reverse.mp hc)
  rw [trim, trimStart, hdrop text h, trimEnd, dropEndWhile, hdrop _ hreverse, List.reverse_reverse]

/-- A word is trimmed, and so it is behind a blank. -/
theorem trim_of_isWord {text : List Char} (h : isWord text = true) : trim text = text :=
  trim_of_not_blank fun c hc => isBlank_of_isWordChar ((isWord_iff.mp h).2 c hc)

theorem trim_blank_cons {text : List Char} {c : Char} (hc : isBlank c = true) :
    trim (c :: text) = trim text := by
  rw [trim, trim, trimStart, trimStart, List.dropWhile_cons_of_pos hc]

/-! ## Joining and splitting -/

theorem joinWith_singleton (separator part : List Char) : joinWith separator [part] = part := by
  simp [joinWith]

theorem joinWith_cons (separator part : List Char) {parts : List (List Char)} (h : parts ≠ []) :
    joinWith separator (part :: parts) = part ++ (separator ++ joinWith separator parts) := by
  cases parts with
  | nil => exact absurd rfl h
  | cons second parts => simp [joinWith, List.intercalate, List.intersperse]

theorem joinWith_append (separator : List Char) {parts more : List (List Char)}
    (hparts : parts ≠ []) (hmore : more ≠ []) :
    joinWith separator (parts ++ more) =
      joinWith separator parts ++ (separator ++ joinWith separator more) := by
  induction parts with
  | nil => exact absurd rfl hparts
  | cons part parts ih =>
      cases parts with
      | nil => rw [List.singleton_append, joinWith_cons _ _ hmore, joinWith_singleton]
      | cons second parts =>
          have hrest := ih (List.cons_ne_nil second parts)
          rw [List.cons_append, joinWith_cons _ _ (List.append_ne_nil_of_right_ne_nil _ hmore),
            hrest, joinWith_cons _ _ (List.cons_ne_nil second parts)]
          simp only [List.append_assoc]

theorem mem_joinWith {c : Char} {separator : List Char} {parts : List (List Char)}
    (h : c ∈ joinWith separator parts) : c ∈ separator ∨ ∃ part ∈ parts, c ∈ part := by
  induction parts with
  | nil => exact absurd h List.not_mem_nil
  | cons part parts ih =>
      cases parts with
      | nil =>
          rw [joinWith_singleton] at h
          exact .inr ⟨part, List.mem_singleton_self part, h⟩
      | cons second parts =>
          rw [joinWith_cons _ _ (List.cons_ne_nil _ _), List.mem_append, List.mem_append] at h
          rcases h with hpart | hsep | hmore
          · exact .inr ⟨part, List.mem_cons_self, hpart⟩
          · exact .inl hsep
          · rcases ih hmore with hsep | ⟨other, hother, hc⟩
            · exact .inl hsep
            · exact .inr ⟨other, List.mem_cons_of_mem _ hother, hc⟩

section Splitting

variable {separator : Char}

theorem splitAt_of_not_mem {text : List Char} (h : separator ∉ text) :
    splitAt separator text = [text] := by
  induction text with
  | nil => rfl
  | cons c text ih =>
      rw [List.mem_cons, not_or] at h
      simp [splitAt, Ne.symm h.1, ih h.2]

/-- The part in front of the first separator is the first one. -/
theorem splitAt_append_cons {part : List Char} (h : separator ∉ part) (rest : List Char) :
    splitAt separator (part ++ separator :: rest) = part :: splitAt separator rest := by
  induction part with
  | nil => simp [splitAt]
  | cons c part ih =>
      rw [List.mem_cons, not_or] at h
      simp [splitAt, Ne.symm h.1, ih h.2]

theorem splitAt_ne_nil (text : List Char) : splitAt separator text ≠ [] := by
  cases text with
  | nil => exact List.cons_ne_nil _ _
  | cons c text =>
      rw [splitAt]
      split
      · exact List.cons_ne_nil _ _
      · split <;> exact List.cons_ne_nil _ _

/-- The parts on both sides of a separator are the parts of both texts. -/
theorem splitAt_append (first second : List Char) :
    splitAt separator (first ++ separator :: second) =
      splitAt separator first ++ splitAt separator second := by
  induction first with
  | nil => simp [splitAt]
  | cons c first ih =>
      rw [List.cons_append, splitAt, splitAt, ih]
      split
      · rfl
      · cases hparts : splitAt separator first with
        | nil => exact absurd hparts (splitAt_ne_nil first)
        | cons part parts => rfl

/-- Joining the parts of a text with the separator gives the text back. -/
theorem joinWith_splitAt (text : List Char) :
    joinWith [separator] (splitAt separator text) = text := by
  induction text with
  | nil => rfl
  | cons c text ih =>
      rw [splitAt]
      cases hparts : splitAt separator text with
      | nil => exact absurd hparts (splitAt_ne_nil text)
      | cons part parts =>
          rw [hparts] at ih
          split
          · next heq =>
              obtain rfl := eq_of_beq heq
              rw [← ih]
              rfl
          · rw [← ih]
            cases parts <;> rfl

/-- Parts without the separator are found again in what they are joined to. -/
theorem splitAt_joinWith {parts : List (List Char)} (hparts : parts ≠ [])
    (h : ∀ part ∈ parts, separator ∉ part) :
    splitAt separator (joinWith [separator] parts) = parts := by
  induction parts with
  | nil => exact absurd rfl hparts
  | cons part parts ih =>
      have hpart := h part List.mem_cons_self
      cases parts with
      | nil => rw [joinWith_singleton, splitAt_of_not_mem hpart]
      | cons second parts =>
          rw [joinWith_cons _ _ (List.cons_ne_nil _ _), List.singleton_append,
            splitAt_append_cons hpart, ih (List.cons_ne_nil _ _)
              fun other hother => h other (List.mem_cons_of_mem _ hother)]

/-- The parts of a list with commas and blanks, the blanks left in front of the parts. -/
theorem splitAt_joinWith_blank {first : List Char} {rest : List (List Char)}
    (hfirst : ',' ∉ first) (hrest : ∀ part ∈ rest, ',' ∉ part) :
    splitAt ',' (joinWith [',', ' '] (first :: rest)) = first :: rest.map (' ' :: ·) := by
  induction rest generalizing first with
  | nil =>
      rw [joinWith_singleton, splitAt_of_not_mem hfirst, List.map_nil]
  | cons second rest ih =>
      have hjoin : joinWith [',', ' '] (first :: second :: rest) =
          first ++ ',' :: joinWith [',', ' '] ((' ' :: second) :: rest) := by
        cases rest <;> simp [joinWith_cons, joinWith_singleton]
      have hsecond : ',' ∉ ' ' :: second := by
        simpa using hrest second List.mem_cons_self
      rw [hjoin, splitAt_append_cons hfirst,
        ih hsecond fun part hpart => hrest part (List.mem_cons_of_mem _ hpart), List.map_cons]

end Splitting

end SchemaDiagram.Text
