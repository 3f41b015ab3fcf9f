import SchemaDiagram.Proofs.Text.Words
import SchemaDiagram.SchemaText.Quote

/-!
# Quoted strings are read back

A quoted text is read back as it was, whatever it holds, and it holds no line break.  What may stand
between two quotes is a language of its own, of characters and escapes; the end of such a content is
where the first quote stands that is not escaped, for a reader of strings and for a scanner alike.
-/

namespace SchemaDiagram.SchemaText

open SchemaDiagram.Text

/-! ## Characters between quotes -/

/-- What may stand between two quotes of a kind: no quote but behind a backslash, and no backslash
but in front of another character, which does not break the line. -/
inductive IsContent (mark : Char) : List Char → Prop
  | nil : IsContent mark []
  | plain {c : Char} {content : List Char} (hmark : c ≠ mark) (hslash : c ≠ '\\')
      (h : IsContent mark content) : IsContent mark (c :: content)
  | escape {c : Char} {content : List Char} (hfeed : c ≠ '\n')
      (h : IsContent mark content) : IsContent mark ('\\' :: c :: content)

/-- A character between quotes is written as itself or behind a backslash. -/
theorem quoteChar_cases (c : Char) :
    (quoteChar c = [c] ∧ c ≠ '\\' ∧ c ≠ '\x27' ∧ c ≠ '\n' ∧ c ≠ '\r' ∧ c ≠ '\t') ∨
      ∃ letter, quoteChar c = ['\\', letter] ∧ unescapeChar letter = c ∧ letter ≠ '\n' ∧
        letter ≠ '\r' ∧ letter ≠ '\t' := by
  by_cases hslash : c = '\\'
  · exact .inr ⟨'\\', by simp [quoteChar, hslash], by rw [hslash]; decide, by decide⟩
  by_cases hquote : c = '\x27'
  · exact .inr ⟨'\x27', by simp [quoteChar, hquote], by rw [hquote]; decide, by decide⟩
  by_cases hfeed : c = '\n'
  · exact .inr ⟨'n', by simp [quoteChar, hfeed], by rw [hfeed]; decide, by decide⟩
  by_cases hreturn : c = '\r'
  · exact .inr ⟨'r', by simp [quoteChar, hreturn], by rw [hreturn]; decide, by decide⟩
  by_cases htab : c = '\t'
  · exact .inr ⟨'t', by simp [quoteChar, htab], by rw [htab]; decide, by decide⟩
  exact .inl ⟨by simp [quoteChar, hslash, hquote, hfeed, hreturn, htab], hslash, hquote, hfeed,
    hreturn, htab⟩

theorem isContent_quoteChars (text : List Char) : IsContent '\x27' (text.flatMap quoteChar) := by
  induction text with
  | nil => exact .nil
  | cons c text ih =>
      rw [List.flatMap_cons]
      rcases quoteChar_cases c with ⟨hplain, hslash, hquote, -⟩ | ⟨letter, hescaped, -, hfeed, -⟩
      · rw [hplain]
        exact .plain hquote hslash ih
      · rw [hescaped]
        exact .escape hfeed ih

/-- Quoting writes line breaks and tabs as escapes. -/
theorem not_mem_quoteChars {c : Char} (hc : c = '\n' ∨ c = '\r' ∨ c = '\t') (text : List Char) :
    c ∉ text.flatMap quoteChar := by
  intro hmem
  obtain ⟨other, -, hmem⟩ := List.mem_flatMap.mp hmem
  obtain ⟨hplain, -, -, hfeed, hreturn, htab⟩ | ⟨letter, hescaped, -, hfeed, hreturn, htab⟩ :=
    quoteChar_cases other
  · rw [hplain, List.mem_singleton] at hmem
    subst hmem
    exact hc.elim hfeed fun hc => hc.elim hreturn htab
  · have hslash : c ≠ '\\' := by rintro rfl; revert hc; decide
    rw [hescaped, List.mem_cons, List.mem_singleton, or_iff_right hslash] at hmem
    subst hmem
    exact hc.elim hfeed fun hc => hc.elim hreturn htab

theorem not_mem_quote {c : Char} (hc : c = '\n' ∨ c = '\r' ∨ c = '\t') (text : List Char) :
    c ∉ quote text := by
  have hquote : c ≠ '\x27' := by rintro rfl; revert hc; decide
  rw [quote, List.mem_cons, List.mem_append, List.mem_singleton]
  rintro (h | h | h)
  · exact hquote h
  · exact not_mem_quoteChars hc text h
  · exact hquote h

/-! ## Reading a quoted text back -/

theorem unescape_cons {c : Char} (h : c ≠ '\\') (rest : List Char) :
    unescape (c :: rest) = c :: unescape rest := by
  rw [unescape.eq_def]
  split
  · next heq => cases heq
  · next heq => exact absurd (List.cons.inj heq).1 h
  · next heq => exact absurd (List.cons.inj heq).1 h
  · next heq =>
      obtain ⟨rfl, rfl⟩ := List.cons.inj heq
      rfl

/-- Unescaping undoes escaping. -/
theorem unescape_quoteChars (text : List Char) : unescape (text.flatMap quoteChar) = text := by
  induction text with
  | nil => rfl
  | cons c text ih =>
      rw [List.flatMap_cons]
      rcases quoteChar_cases c with ⟨hplain, hc, -⟩ | ⟨letter, hescaped, hletter, -⟩
      · rw [hplain, List.singleton_append, unescape_cons hc, ih]
      · rw [hescaped]
        simp only [List.cons_append, List.nil_append, unescape, hletter, ih]

theorem takeUntilQuote?_cons {mark c : Char} (hslash : c ≠ '\\') (hmark : c ≠ mark)
    (rest : List Char) :
    takeUntilQuote? mark (c :: rest) =
      (takeUntilQuote? mark rest).map fun (content, rest) => (c :: content, rest) := by
  rw [takeUntilQuote?.eq_def]
  split
  · next heq => cases heq
  · next heq => exact absurd (List.cons.inj heq).1 hslash
  · next heq => exact absurd (List.cons.inj heq).1 hslash
  · next heq =>
      obtain ⟨rfl, rfl⟩ := List.cons.inj heq
      rw [if_neg hmark]

theorem takeUntilQuote?_mark {mark : Char} (h : isQuote mark = true) (rest : List Char) :
    takeUntilQuote? mark (mark :: rest) = some ([], rest) := by
  have hslash : mark ≠ '\\' := by rintro rfl; revert h; decide
  rw [takeUntilQuote?.eq_def]
  split
  · next heq => cases heq
  · next heq => exact absurd (List.cons.inj heq).1 hslash
  · next heq => exact absurd (List.cons.inj heq).1 hslash
  · next heq =>
      obtain ⟨rfl, rfl⟩ := List.cons.inj heq
      rw [if_pos rfl]

/-- A content is taken up to the quote behind it. -/
theorem IsContent.takeUntilQuote? {mark : Char} {content : List Char} (h : IsContent mark content)
    (hmark : isQuote mark = true) (rest : List Char) :
    takeUntilQuote? mark (content ++ mark :: rest) = some (content, rest) := by
  induction h with
  | nil => exact takeUntilQuote?_mark hmark rest
  | plain hother hslash _ ih => rw [List.cons_append, takeUntilQuote?_cons hslash hother, ih]; rfl
  | escape _ _ ih =>
      simp only [List.cons_append, SchemaText.takeUntilQuote?, ih, Option.map_some]

/-- Within a line nothing else is taken. -/
theorem isContent_of_takeUntilQuote? {mark : Char} {text content rest : List Char}
    (hfeed : '\n' ∉ text) (h : takeUntilQuote? mark text = some (content, rest)) :
    IsContent mark content ∧ text = content ++ mark :: rest := by
  fun_induction takeUntilQuote? mark text generalizing content rest with
  | case1 => cases h
  | case2 c text ih =>
      rw [List.mem_cons, List.mem_cons, not_or, not_or] at hfeed
      obtain ⟨⟨inner, behind⟩, htaken, heq⟩ := Option.map_eq_some_iff.mp h
      obtain ⟨rfl, rfl⟩ := Prod.mk.inj heq
      obtain ⟨hinner, rfl⟩ := ih hfeed.2.2 htaken
      exact ⟨.escape (Ne.symm hfeed.2.1) hinner, rfl⟩
  | case3 => cases h
  | case4 text hslash hescape =>
      obtain ⟨rfl, rfl⟩ := Prod.mk.inj (Option.some.inj h)
      exact ⟨.nil, rfl⟩
  | case5 c text hescape _ hmark ih =>
      obtain ⟨⟨inner, behind⟩, htaken, heq⟩ := Option.map_eq_some_iff.mp h
      obtain ⟨rfl, rfl⟩ := Prod.mk.inj heq
      obtain ⟨hinner, rfl⟩ := ih (fun hmem => hfeed (List.mem_cons_of_mem c hmem)) htaken
      obtain ⟨other, more, hmore⟩ :=
        List.exists_cons_of_ne_nil (List.append_ne_nil_of_right_ne_nil inner
          (List.cons_ne_nil mark behind))
      exact ⟨.plain hmark (fun hslash => hescape other more hslash hmore) hinner, rfl⟩

/-- In front of a text that stays on its line, a string with single or double quotes is taken, and
nothing but one. -/
theorem takeQuoted?_eq_some_iff {text content rest : List Char} (hfeed : '\n' ∉ text) :
    takeQuoted? text = some (content, rest) ↔ ∃ mark, isQuote mark = true ∧
      IsContent mark content ∧ text = mark :: (content ++ mark :: rest) := by
  constructor
  · intro h
    cases text with
    | nil => cases h
    | cons mark text =>
        rw [takeQuoted?] at h
        split at h
        · next hmark =>
            obtain ⟨hcontent, rfl⟩ := isContent_of_takeUntilQuote?
              (fun hmem => hfeed (List.mem_cons_of_mem mark hmem)) h
            exact ⟨mark, hmark, hcontent, rfl⟩
        · cases h
  · rintro ⟨mark, hmark, hcontent, rfl⟩
    rw [takeQuoted?, if_pos hmark, hcontent.takeUntilQuote? hmark]

/-- A quoted text in front of another text is taken whole. -/
theorem takeQuoted?_quote (text rest : List Char) :
    takeQuoted? (quote text ++ rest) = some (text.flatMap quoteChar, rest) := by
  have hquote : isQuote '\x27' = true := by decide
  rw [quote, List.cons_append, takeQuoted?, if_pos hquote, List.append_assoc, List.singleton_append,
    (isContent_quoteChars text).takeUntilQuote? hquote]

/-- Where a quoted text is read as a string, its content ends at the last quote. -/
theorem content_of_quote_append {text content rest behind : List Char}
    (h : IsContent '\x27' content)
    (heq : quote text ++ rest = '\x27' :: (content ++ '\x27' :: behind)) :
    content = text.flatMap quoteChar ∧ behind = rest := by
  have hquote : isQuote '\x27' = true := by decide
  have htaken : takeQuoted? (quote text ++ rest) = some (content, behind) := by
    rw [heq, takeQuoted?, if_pos hquote, h.takeUntilQuote? hquote]
  rw [takeQuoted?_quote] at htaken
  exact Prod.mk.inj (Option.some.inj htaken).symm

/-! ## Scanning a quoted text -/

/-- A scanner within a string finds each character of a content quoted and stays in the string. -/
theorem IsContent.scan {mark : Char} {content : List Char} (h : IsContent mark content)
    (hfeed : '\n' ∉ content) (rest : List Char) :
    (QuoteState.inside mark).marks (content ++ rest) =
        List.replicate content.length true ++ (QuoteState.inside mark).marks rest ∧
      (QuoteState.inside mark).run (content ++ rest) = (QuoteState.inside mark).run rest := by
  induction h with
  | nil => exact ⟨rfl, rfl⟩
  | @plain c content hmark hslash _ ih =>
      rw [List.mem_cons, not_or] at hfeed
      have hstep : (QuoteState.inside mark).step c = (.inside mark, true) := by
        simp [QuoteState.step, hslash, hmark, Ne.symm hfeed.1]
      obtain ⟨hmarks, hrun⟩ := ih hfeed.2
      constructor
      · rw [List.cons_append, QuoteState.marks, hstep, hmarks, List.length_cons,
          List.replicate_succ, List.cons_append]
      · rw [List.cons_append, QuoteState.run, List.foldl_cons, hstep]
        exact hrun
  | @escape c content _ _ ih =>
      have hbehind : '\n' ∉ content := fun hmem =>
        hfeed (List.mem_cons_of_mem _ (List.mem_cons_of_mem c hmem))
      obtain ⟨hmarks, hrun⟩ := ih hbehind
      constructor
      · simp only [List.cons_append, QuoteState.marks, QuoteState.step, if_true, hmarks,
          List.length_cons, List.replicate_succ]
      · exact hrun

/-- A quoted text is quoted as a whole, and its string is closed behind it. -/
theorem scan_quote (text : List Char) :
    QuoteState.outside.marks (quote text) = List.replicate (quote text).length true ∧
      QuoteState.outside.run (quote text) = .outside := by
  obtain ⟨hmarks, hrun⟩ :=
    (isContent_quoteChars text).scan (not_mem_quoteChars (.inl rfl) text) ['\x27']
  constructor
  · have hopen : QuoteState.outside.marks (quote text) =
        true :: (QuoteState.inside '\x27').marks (text.flatMap quoteChar ++ ['\x27']) := rfl
    have hclose : (QuoteState.inside '\x27').marks ['\x27'] = [true] := rfl
    rw [hopen, hmarks, hclose, ← List.replicate_succ', ← List.replicate_succ, quote,
      List.length_cons, List.length_append, List.length_singleton]
  · exact hrun

end SchemaDiagram.SchemaText
