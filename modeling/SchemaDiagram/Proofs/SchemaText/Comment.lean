import SchemaDiagram.Proofs.SchemaText.Relationships
import SchemaDiagram.Proofs.SchemaText.Tables

/-!
# No comments in a written text

Stripping comments goes line by line.  A written text consists of lines without unquoted slashes
side by side and without carriage returns, so that it is left as it is.
-/

namespace SchemaDiagram.SchemaText

open SchemaDiagram.Text

variable {κ : Type}

/-! ## Lines that are kept -/

/-- A line that is kept when comments are stripped. -/
def IsKeptLine (line : List Char) : Prop :=
  Unbroken line ∧ cutComment .outside line = line

theorem isKeptLine_of_commentless {line : List Char} (h : Commentless line)
    (hunbroken : Unbroken line) : IsKeptLine line := by
  have hcut := h [] (by simp)
  rw [List.append_nil] at hcut
  exact ⟨hunbroken, by simpa [cutComment] using hcut⟩

theorem Inert.isKeptLine {line : List Char} (h : Inert line) : IsKeptLine line :=
  isKeptLine_of_commentless (commentless_of_sealed h.closed) h.unbroken

theorem linesOfParts_ne_nil {text : List Char} (h : text ≠ []) :
    linesOfParts (splitAt '\n' text) ≠ [] := by
  cases hparts : splitAt '\n' text with
  | nil => exact absurd hparts (splitAt_ne_nil text)
  | cons part parts =>
      cases parts with
      | nil =>
          have hjoin : joinWith ['\n'] (splitAt '\n' text) = text := joinWith_splitAt text
          rw [hparts, joinWith_singleton] at hjoin
          simp [linesOfParts, hjoin, h]
      | cons second parts => simp [linesOfParts]

theorem dropReturn_of_not_mem {line : List Char} (h : '\r' ∉ line) : dropReturn line = line := by
  rw [dropReturn, if_neg fun hlast => h (List.mem_of_getLast? hlast)]

/-- A kept line in front of a text is kept together with its line break. -/
theorem stripComments_line {line rest : List Char} (h : IsKeptLine line) (hrest : rest ≠ []) :
    stripComments (line ++ '\n' :: rest) = line ++ '\n' :: stripComments rest := by
  obtain ⟨⟨hfeed, hreturn⟩, hcut⟩ := h
  have hdrop := dropReturn_of_not_mem hreturn
  have hlines : lines (line ++ '\n' :: rest) = line :: lines rest := by
    rw [lines, lines, splitAt_append_cons hfeed]
    cases hparts : splitAt '\n' rest with
    | nil => exact absurd hparts (splitAt_ne_nil rest)
    | cons part parts =>
        rw [linesOfParts, hdrop]
        exact fun hnone => absurd hnone (List.cons_ne_nil _ _)
  have hnonempty : (lines rest).map (cutComment .outside) ≠ [] := by
    simpa [lines] using linesOfParts_ne_nil hrest
  rw [stripComments, hlines, List.map_cons, hcut, joinWith_cons _ _ hnonempty]
  rfl

theorem stripComments_last {line : List Char} (h : IsKeptLine line) :
    stripComments line = line := by
  obtain ⟨⟨hfeed, -⟩, hcut⟩ := h
  rw [stripComments, lines, splitAt_of_not_mem hfeed, linesOfParts]
  split
  · next hempty =>
      rw [List.isEmpty_iff.mp hempty]
      rfl
  · rw [List.map_singleton, hcut, joinWith_singleton]

/-- A text that holds no comment. -/
def IsKept (text : List Char) : Prop :=
  stripComments text = text

theorem IsKept.line {line rest : List Char} (h : IsKept rest) (hline : IsKeptLine line)
    (hrest : rest ≠ []) : IsKept (line ++ '\n' :: rest) := by
  rw [IsKept, stripComments_line hline hrest, h]

theorem IsKept.broken {rest : List Char} (h : IsKept rest) (hrest : rest ≠ [])
    {lines : List (List Char)} (hlines : ∀ line ∈ lines, IsKeptLine line) :
    IsKept (broken lines ++ rest) := by
  induction lines with
  | nil => exact h
  | cons line lines ih =>
      have hmore := ih fun other hother => hlines other (List.mem_cons_of_mem _ hother)
      rw [broken_cons, List.append_assoc, List.cons_append]
      exact hmore.line (hlines line List.mem_cons_self) (by simp [hrest])

theorem isKeptLine_nil : IsKeptLine [] :=
  ⟨⟨List.not_mem_nil, List.not_mem_nil⟩, rfl⟩

theorem isKeptLine_brace {front : List Char} (h : Quiet front) {brace : Char}
    (hbrace : brace = '\x7b' ∨ brace = '\x7d') : IsKeptLine (front ++ [brace]) := by
  have hcommentless : Commentless [brace] := by
    intro rest _
    rcases hbrace with rfl | rfl <;> simp [cutComment, QuoteState.step, isQuote]
  have hunbroken : Unbroken [brace] := by
    unfold Unbroken
    rcases hbrace with rfl | rfl <;> decide
  refine isKeptLine_of_commentless ((commentless_of_sealed h.sealed).append hcommentless ?_)
    (h.inert.unbroken.append hunbroken)
  rcases hbrace with rfl | rfl <;> decide

/-! ## Tables -/

def indexBlockLines (entries : List (List Char)) : List (List Char) :=
  if entries.isEmpty then []
  else (('\t' :: (indexesKeyword ++ [' '])) ++ ['\x7b']) ::
    (indexedLines entries ++ [['\t', '\x7d']])

theorem indexBlock_eq_broken (entries : List (List Char)) :
    indexBlock entries = broken (indexBlockLines entries) := by
  cases hempty : entries.isEmpty with
  | true => simp [indexBlock, indexBlockLines, hempty, broken]
  | false =>
      simp [indexBlock, indexBlockLines, hempty, flatMap_indented, broken_cons, broken_append,
        broken_nil, indented, word, indexesKeyword]

/-- The block of a table is a list of lines with its closing brace behind them. -/
theorem tableText_eq_broken (table : Table κ) :
    tableText table = broken ((tableKeyword ++ ' ' :: (table.name.toList ++ [' ']) ++ ['\x7b']) ::
      (bodyLines table ++ indexBlockLines (indexLines table))) ++ ['\x7d'] := by
  rw [tableText_eq, tableBody_eq, indexBlock_eq_broken, broken_cons, broken_append]
  simp

theorem isKeptLine_tableText {dialect : Dialect} {table : Table κ} (h : table.Legible dialect) :
    ∀ line ∈ (tableKeyword ++ ' ' :: (table.name.toList ++ [' ']) ++ ['\x7b']) ::
      (bodyLines table ++ indexBlockLines (indexLines table)), IsKeptLine line := by
  intro line hline
  rw [List.mem_cons, List.mem_append] at hline
  rcases hline with rfl | hline | hline
  · have hkeyword : Quiet (tableKeyword ++ [' ']) := quiet_of_all (by decide)
    have hblank : Quiet [' '] := quiet_of_all (by decide)
    have hhead := hkeyword.append ((quiet_of_isWord h.name).append hblank)
    have hkept := isKeptLine_brace hhead (.inl rfl)
    simpa using hkept
  · exact (bodyLines_inert h line hline).1.isKeptLine
  · rw [indexBlockLines] at hline
    split at hline
    · exact absurd hline List.not_mem_nil
    · rw [List.mem_cons, List.mem_append, List.mem_singleton] at hline
      rcases hline with rfl | hline | rfl
      · exact isKeptLine_brace (quiet_of_all (by decide)) (.inl rfl)
      · exact (indexLines_inert h line hline).isKeptLine
      · have htab : Quiet ['\t'] := quiet_of_all (by decide)
        exact isKeptLine_brace htab (.inr rfl)

/-- The block of a table is kept in front of an empty line and at the end of the text. -/
theorem isKept_tableText {dialect : Dialect} {table : Table κ} (h : table.Legible dialect)
    {rest : List Char} (hrest : rest = [] ∨ ∃ more, rest = '\n' :: '\n' :: more ∧ more ≠ [] ∧
      IsKept more) : IsKept (tableText table ++ rest) := by
  have hclose : IsKeptLine ([] ++ ['\x7d']) := isKeptLine_brace (by simp [Quiet]) (.inr rfl)
  have hend : IsKept ('\x7d' :: rest) := by
    rcases hrest with rfl | ⟨more, rfl, hmore, hkept⟩
    · exact stripComments_last hclose
    · have hempty : IsKept ([] ++ '\n' :: more) := hkept.line isKeptLine_nil hmore
      exact hempty.line hclose (List.cons_ne_nil _ _)
  rw [tableText_eq_broken, List.append_assoc]
  exact hend.broken (List.cons_ne_nil _ _) (isKeptLine_tableText h)

/-! ## Lines below each other -/

/-- Lines below each other are kept. -/
theorem isKept_joinWith {lines : List (List Char)}
    (h : ∀ line ∈ lines, IsKeptLine line ∧ line ≠ []) : IsKept (joinWith ['\n'] lines) := by
  induction lines with
  | nil => rfl
  | cons line lines ih =>
      have hmore := ih fun other hother => h other (List.mem_cons_of_mem _ hother)
      obtain ⟨hline, -⟩ := h line List.mem_cons_self
      cases lines with
      | nil =>
          rw [joinWith_singleton]
          exact stripComments_last hline
      | cons second lines =>
          rw [joinWith_cons _ _ (List.cons_ne_nil _ _)]
          refine hmore.line hline ?_
          obtain ⟨-, hsecond⟩ := h second (by simp)
          cases lines with
          | nil => rwa [joinWith_singleton]
          | cons third lines => simp [joinWith_cons, hsecond]

end SchemaDiagram.SchemaText
