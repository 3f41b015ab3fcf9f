import SchemaDiagram.Proofs.SchemaText.Readable

/-!
# Texts below each other

A relationship stands on one line, so that a line break separates what is declared before it from
what is declared behind it.  Comments end with their lines as well: a text below another one is
stripped of its comments on its own.  If no block reaches across the line break either, both texts
declare what they declare by themselves.
-/

namespace SchemaDiagram.SchemaText

open SchemaDiagram.Text

/-! ## Taking things from a line -/

section Lines

variable (rest : List Char)

theorem afterPrefix?_feed {mark : List Char} (h : '\n' ∉ mark) (text : List Char) :
    afterPrefix? mark (text ++ '\n' :: rest) =
      (afterPrefix? mark text).map (· ++ '\n' :: rest) := by
  induction mark generalizing text with
  | nil => rfl
  | cons p mark ih =>
      rw [List.mem_cons, not_or] at h
      cases text with
      | nil => simp [afterPrefix?, Ne.symm h.1]
      | cons c text =>
          rw [List.cons_append, afterPrefix?, afterPrefix?, ih h.2]
          split <;> rfl

theorem afterChar?_feed {mark : Char} (h : mark ≠ '\n') (text : List Char) :
    afterChar? mark (text ++ '\n' :: rest) = (afterChar? mark text).map (· ++ '\n' :: rest) := by
  cases text with
  | nil => simp [afterChar?, Ne.symm h]
  | cons c text =>
      rw [List.cons_append, afterChar?, afterChar?]
      split <;> rfl

theorem dropWhile_feed {p : Char → Bool} (h : p '\n' = false) (text : List Char) :
    (text ++ '\n' :: rest).dropWhile p = text.dropWhile p ++ '\n' :: rest := by
  rw [List.dropWhile_append]
  split
  · next hempty =>
      rw [List.isEmpty_iff.mp hempty, List.dropWhile_cons_of_neg (by simp [h]), List.nil_append]
  · rfl

theorem takeWhile_feed {p : Char → Bool} (h : p '\n' = false) (text : List Char) :
    (text ++ '\n' :: rest).takeWhile p = text.takeWhile p := by
  induction text with
  | nil => simp [h]
  | cons c text ih => simp [List.takeWhile_cons, ih]

theorem skipInline_feed (text : List Char) :
    skipInline (text ++ '\n' :: rest) = skipInline text ++ '\n' :: rest :=
  dropWhile_feed rest rfl text

theorem head?_any_feed {p : Char → Bool} (h : p '\n' = false) (text : List Char) :
    (text ++ '\n' :: rest).head?.any p = text.head?.any p := by
  cases text with
  | nil => simpa using h
  | cons c text => rfl

theorem skipInlineSome?_feed (text : List Char) :
    skipInlineSome? (text ++ '\n' :: rest) =
      (skipInlineSome? text).map (· ++ '\n' :: rest) := by
  rw [skipInlineSome?, skipInlineSome?, head?_any_feed rest rfl, skipInline_feed]
  split <;> rfl

theorem takeWord?_feed (text : List Char) :
    takeWord? (text ++ '\n' :: rest) =
      (takeWord? text).map fun found => (found.1, found.2 ++ '\n' :: rest) := by
  rw [takeWord?, takeWord?, List.span_eq_takeWhile_dropWhile, List.span_eq_takeWhile_dropWhile,
    takeWhile_feed rest rfl, dropWhile_feed rest rfl]
  cases text.takeWhile isWordChar <;> rfl

theorem takeEnd?_feed (text : List Char) :
    takeEnd? (text ++ '\n' :: rest) =
      (takeEnd? text).map fun found => (found.1, found.2 ++ '\n' :: rest) := by
  have hpoint : ∀ text, afterChar? '.' (text ++ '\n' :: rest) =
      (afterChar? '.' text).map (· ++ '\n' :: rest) := afterChar?_feed rest (by decide)
  simp only [takeEnd?, takeWhile_feed rest (p := fun c => isWordChar c || c == '*') rfl,
    dropWhile_feed rest (p := fun c => isWordChar c || c == '*') rfl, skipInlineSome?_feed,
    takeWord?_feed, hpoint, Option.bind_eq_bind, Option.bind_map, Option.map_bind,
    Function.comp_def, Option.pure_def, Option.map_some]

/-- No relationship reaches across a line break. -/
theorem unaffected_takeRelationship? :
    Occurrences.Unaffected takeRelationship? ('\n' :: rest) := by
  intro previous text
  have hkeyword : ∀ text, afterPrefix? relationshipKeyword (text ++ '\n' :: rest) =
      (afterPrefix? relationshipKeyword text).map (· ++ '\n' :: rest) :=
    afterPrefix?_feed rest (by decide)
  have hcolon : ∀ text, afterChar? ':' (text ++ '\n' :: rest) =
      (afterChar? ':' text).map (· ++ '\n' :: rest) := afterChar?_feed rest (by decide)
  have hcomma : ∀ text, afterChar? ',' (text ++ '\n' :: rest) =
      (afterChar? ',' text).map (· ++ '\n' :: rest) := afterChar?_feed rest (by decide)
  simp only [takeRelationship?, hkeyword, hcolon, hcomma, skipInline_feed, skipInlineSome?_feed,
    takeWord?_feed, takeEnd?_feed, Option.bind_eq_bind, Option.bind_map, Option.map_bind,
    Function.comp_def, Option.pure_def, Option.map_some]

end Lines

theorem takeRelationship?_nil (previous : Option Char) : takeRelationship? previous [] = none := by
  simp only [takeRelationship?]
  cases isBoundary previous <;> rfl

/-- Two pieces of text below each other declare the relationships that each of them declares. -/
theorem relationshipsOfPiece_feed (first second : List Char) :
    relationshipsOfPiece (first ++ '\n' :: second) =
      relationshipsOfPiece first ++ relationshipsOfPiece second := by
  have hboundary : takeRelationship? (some '\n') = takeRelationship? none := rfl
  have hfind := Occurrences.find_append (unaffected_takeRelationship? second)
    takeRelationship?_nil none first
  rw [relationshipsOfPiece, relationshipsOfPiece, relationshipsOfPiece, ← List.map_append,
    Occurrences.ofText, Occurrences.ofText, Occurrences.ofText, hfind, Occurrences.items_append,
    Occurrences.items_plain, Occurrences.find_congr hboundary]

/-! ## Lines below each other -/

theorem linesOfParts_append (parts : List (List Char)) {more : List (List Char)}
    (hmore : more ≠ []) :
    linesOfParts (parts ++ more) = parts.map dropReturn ++ linesOfParts more := by
  induction parts with
  | nil => rfl
  | cons part parts ih =>
      rw [List.cons_append, linesOfParts, ih, List.map_cons, List.cons_append]
      exact fun hnone => absurd hnone (List.append_ne_nil_of_right_ne_nil _ hmore)

/-- All parts of the upper text are lines. -/
theorem lines_feed (first second : List Char) :
    lines (first ++ '\n' :: second) = (splitAt '\n' first).map dropReturn ++ lines second := by
  rw [lines, lines, splitAt_append, linesOfParts_append _ (splitAt_ne_nil second)]

/-- A text without its comments, all parts between its line breaks taken as lines. -/
def cutLines (text : List Char) : List Char :=
  joinWith ['\n'] ((splitAt '\n' text).map fun part => cutComment .outside (dropReturn part))

theorem cutParts_ne_nil (text : List Char) :
    (splitAt '\n' text).map (fun part => cutComment .outside (dropReturn part)) ≠ [] :=
  fun hnone => splitAt_ne_nil text (List.map_eq_nil_iff.mp hnone)

theorem cutLines_line {line : List Char} (h : '\n' ∉ line) :
    cutLines line = cutComment .outside (dropReturn line) := by
  rw [cutLines, splitAt_of_not_mem h, List.map_singleton, joinWith_singleton]

theorem cutLines_feed (first second : List Char) :
    cutLines (first ++ '\n' :: second) = cutLines first ++ '\n' :: cutLines second := by
  rw [cutLines, splitAt_append, List.map_append]
  exact joinWith_append ['\n'] (cutParts_ne_nil first) (cutParts_ne_nil second)

/-- A single line is cut at its comment. -/
theorem stripComments_of_not_mem {line : List Char} (h : '\n' ∉ line) :
    stripComments line = cutComment .outside line := by
  rw [stripComments, lines, splitAt_of_not_mem h, linesOfParts]
  cases line with
  | nil => rfl
  | cons c line => rw [List.isEmpty_cons, if_neg Bool.false_ne_true, List.map_singleton,
      joinWith_singleton]

theorem stripComments_feed_nil (first : List Char) :
    stripComments (first ++ ['\n']) = cutLines first := by
  have hnone : lines [] = [] := rfl
  rw [stripComments, lines_feed, hnone, List.append_nil, List.map_map]
  rfl

/-- Of two texts below each other, both are stripped of their comments. -/
theorem stripComments_feed (first : List Char) {second : List Char} (h : second ≠ []) :
    stripComments (first ++ '\n' :: second) = cutLines first ++ '\n' :: stripComments second := by
  have hsecond : (lines second).map (cutComment .outside) ≠ [] :=
    fun hnone => linesOfParts_ne_nil h (List.map_eq_nil_iff.mp hnone)
  rw [stripComments, lines_feed, List.map_append, List.map_map]
  exact joinWith_append ['\n'] (cutParts_ne_nil first) hsecond

/-- The part of a text behind its last line break. -/
def lastLine (text : List Char) : List Char :=
  (splitAt '\n' text).getLast (splitAt_ne_nil text)

theorem not_mem_lastLine (text : List Char) : '\n' ∉ lastLine text :=
  not_mem_of_mem_splitAt _ (List.getLast_mem _)

/-- A text is its last line, or this line stands below the rest of it. -/
theorem lastLine_cases (text : List Char) :
    text = lastLine text ∨ ∃ front, text = front ++ '\n' :: lastLine text := by
  have hsome : splitAt '\n' text ≠ [] := splitAt_ne_nil text
  have hparts := List.dropLast_append_getLast hsome
  have hjoin : joinWith ['\n'] (splitAt '\n' text) = text := joinWith_splitAt text
  rw [← hparts] at hjoin
  by_cases hnone : (splitAt '\n' text).dropLast = []
  · left
    rw [hnone, List.nil_append, joinWith_singleton] at hjoin
    exact hjoin.symm
  · right
    rw [joinWith_append _ hnone (List.cons_ne_nil _ _), joinWith_singleton] at hjoin
    exact ⟨_, hjoin.symm⟩

/-- In a text whose last line is not empty and does not end in a carriage return, all parts between
line breaks are lines. -/
theorem stripComments_eq_cutLines {text : List Char} {c : Char} (hlast : text.getLast? = some c)
    (hfeed : c ≠ '\n') (hreturn : c ≠ '\r') : stripComments text = cutLines text := by
  have hline : ∀ line : List Char, '\n' ∉ line → line.getLast? = some c →
      stripComments line = cutLines line := by
    intro line hmem hend
    have hdrop : dropReturn line = line := by
      rw [dropReturn, hend, if_neg (fun heq => hreturn (Option.some.inj heq))]
    rw [stripComments_of_not_mem hmem, cutLines_line hmem, hdrop]
  obtain htext | ⟨front, htext⟩ := lastLine_cases text
  · exact hline text (htext ▸ not_mem_lastLine text) hlast
  · have hend : (lastLine text).getLast? = some c := by
      rw [htext, List.getLast?_append, List.getLast?_cons] at hlast
      cases hnone : (lastLine text).getLast? with
      | none =>
          rw [hnone] at hlast
          exact absurd (Option.some.inj hlast).symm hfeed
      | some d => rwa [hnone] at hlast
    have hnonempty : lastLine text ≠ [] := by
      intro hnone
      rw [hnone] at hend
      cases hend
    rw [htext, stripComments_feed front hnonempty, cutLines_feed,
      hline _ (not_mem_lastLine text) hend]

/-! ## Blocks on both sides of a line break -/

theorem parsePlain_nil (dialect : Dialect) : parsePlain dialect [] = ⟨[], []⟩ := by
  have hblocks : blocks [] = ⟨[], []⟩ := Occurrences.find_nil none
  have hpiece : relationshipsOfPiece [] = [] := by
    rw [relationshipsOfPiece, Occurrences.ofText, Occurrences.find_nil]
    rfl
  simp [parsePlain, hblocks, Occurrences.items, Occurrences.pieces, hpiece]

/-- Where no block reaches across the line break between two texts, both texts declare what they
declare by themselves. -/
theorem parsePlain_feed (dialect : Dialect) {first second : List Char}
    (h : blocks (first ++ '\n' :: second) =
      (blocks first).append (Occurrences.plain '\n' (blocks second))) :
    parsePlain dialect (first ++ '\n' :: second) =
      ⟨(parsePlain dialect first).tables ++ (parsePlain dialect second).tables,
        (parsePlain dialect first).relationships ++
          (parsePlain dialect second).relationships⟩ := by
  obtain ⟨fronts, front, more, hfirst, hsecond, hpieces⟩ :=
    Occurrences.exists_pieces_append (blocks first) (blocks second) '\n'
  simp only [parsePlain, h, hpieces, hfirst, hsecond, Occurrences.items_append,
    Occurrences.items_plain, List.map_append, List.flatMap_append, List.flatMap_cons,
    List.flatMap_nil, relationshipsOfPiece_feed, List.append_nil, List.append_assoc]

end SchemaDiagram.SchemaText
