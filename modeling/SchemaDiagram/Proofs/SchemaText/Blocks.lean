import SchemaDiagram.Proofs.SchemaText.Occurrence
import SchemaDiagram.Proofs.SchemaText.Segments

/-!
# Complete blocks

A block is taken from the front of a text exactly if it is written there completely: the keyword, a
name, and a body in braces, of which the last one closes the first.  What follows it does not
matter.  The scanner that looks for the closing brace stands outside of strings when it finds it.
-/

namespace SchemaDiagram.SchemaText

open SchemaDiagram.Text

/-! ## Scanners -/

theorem QuoteState.run_append (state : QuoteState) (text more : List Char) :
    state.run (text ++ more) = (state.run text).run more :=
  List.foldl_append

/-- A scanner that reads an unquoted character stands outside of strings behind it, and it stood
there before unless the character ends the line. -/
theorem QuoteState.step_of_unquoted {state : QuoteState} {c : Char}
    (h : (state.step c).2 = false) :
    (state.step c).1 = .outside ∧ (c ≠ '\n' → state = .outside) := by
  cases state with
  | outside =>
      by_cases hquote : isQuote c = true
      · simp [step, hquote] at h
      · simp [step, hquote]
  | escaped mark => simp [step] at h
  | inside mark =>
      by_cases hslash : c = '\\'
      · simp [step, hslash] at h
      by_cases hmark : c = mark
      · simp [step, if_neg hslash, if_pos hmark] at h
      by_cases hfeed : c = '\n'
      · simp only [step, if_neg hslash, if_neg hmark, if_pos hfeed]
        exact ⟨trivial, fun hne => absurd hfeed hne⟩
      · simp [step, if_neg hslash, if_neg hmark, if_neg hfeed] at h

theorem run_of_isPlain {text : List Char} (h : IsPlain text) :
    QuoteState.outside.run text = .outside := by
  induction text with
  | nil => rfl
  | cons c text ih =>
      have hstep := step_outside_plain (h c List.mem_cons_self)
      change (QuoteState.outside.step c).1.run text = .outside
      rw [hstep]
      exact ih fun d hd => h d (List.mem_cons_of_mem c hd)

/-! ## Closing braces -/

/-- Reading a character, the search for the closing brace ends at an unquoted closing brace, or it
goes on with a number of open braces that depends on this character only. -/
theorem closingBraceFrom_cons (state : QuoteState) (depth : Nat) (c : Char) :
    (c = '\x7d' ∧ state = .outside ∧
        ∀ text, closingBraceFrom state depth (c :: text) = some 0) ∨
      ∃ next, ∀ text, closingBraceFrom state depth (c :: text) =
        (closingBraceFrom (state.step c).1 next text).map (· + 1) := by
  by_cases hquoted : (state.step c).2 = true
  · exact .inr ⟨depth, fun text => by simp only [closingBraceFrom, hquoted, if_true]⟩
  by_cases hopen : c = '\x7b'
  · subst hopen
    exact .inr ⟨depth + 1, fun text => by simp only [closingBraceFrom, if_neg hquoted, if_true]⟩
  by_cases hclose : c = '\x7d'
  · subst hclose
    by_cases hdepth : depth ≤ 1
    · obtain ⟨-, hstate⟩ := QuoteState.step_of_unquoted (by simpa using hquoted)
      refine .inl ⟨rfl, hstate (by decide), fun text => ?_⟩
      simp only [closingBraceFrom, if_neg hquoted, if_neg hopen, if_pos hdepth, if_true]
    · exact .inr ⟨depth - 1, fun text => by
        simp only [closingBraceFrom, if_neg hquoted, if_neg hopen, if_neg hdepth, if_true]⟩
  · exact .inr ⟨depth, fun text => by
      simp only [closingBraceFrom, if_neg hquoted, if_neg hopen, if_neg hclose]⟩

/-- The closing brace stands outside of strings, and it is found whatever follows it. -/
theorem closingBraceFrom_eq_some {state : QuoteState} {depth position : Nat} {text : List Char}
    (h : closingBraceFrom state depth text = some position) :
    ∃ inner rest, text = inner ++ '\x7d' :: rest ∧ position = inner.length ∧
      state.run inner = .outside ∧
      ∀ more, closingBraceFrom state depth (inner ++ '\x7d' :: more) = some inner.length := by
  induction text generalizing state depth position with
  | nil => simp [closingBraceFrom] at h
  | cons c text ih =>
      obtain ⟨rfl, rfl, hfound⟩ | ⟨next, hnext⟩ := closingBraceFrom_cons state depth c
      · rw [hfound] at h
        exact ⟨[], text, rfl, (Option.some.inj h).symm, rfl, hfound⟩
      · rw [hnext] at h
        obtain ⟨before, hbefore, rfl⟩ := Option.map_eq_some_iff.mp h
        obtain ⟨inner, rest, rfl, rfl, hrun, hmore⟩ := ih hbefore
        refine ⟨c :: inner, rest, rfl, rfl, hrun, fun more => ?_⟩
        rw [List.cons_append, hnext, hmore]
        rfl

/-- A text that is closed behind its front is closed there whatever follows. -/
theorem closingBraceFrom_of_closed {state : QuoteState} {depth : Nat} {inner rest : List Char}
    (h : closingBraceFrom state depth (inner ++ '\x7d' :: rest) = some inner.length) :
    state.run inner = .outside ∧
      ∀ more, closingBraceFrom state depth (inner ++ '\x7d' :: more) = some inner.length := by
  obtain ⟨front, behind, hsplit, hlength, hrun, hmore⟩ := closingBraceFrom_eq_some h
  obtain ⟨rfl, -⟩ := List.append_inj hsplit hlength
  exact ⟨hrun, hmore⟩

/-! ## Heads -/

/-- Blanks only. -/
def IsBlankText (text : List Char) : Prop :=
  ∀ c ∈ text, isBlank c = true

theorem IsBlankText.isPlain {text : List Char} (h : IsBlankText text) : IsPlain text :=
  fun c hc => isQuote_of_isBlank (h c hc)

theorem trimStart_append {gap rest : List Char} (h : IsBlankText gap)
    (hrest : rest.head?.any isBlank = false) : trimStart (gap ++ rest) = rest :=
  dropWhile_append_stop h hrest

/-- Every text is trimmed of blanks. -/
theorem exists_gap (text : List Char) :
    ∃ gap, IsBlankText gap ∧ text = gap ++ trimStart text :=
  ⟨text.takeWhile isBlank, fun _ hc => List.mem_takeWhile_imp hc,
    List.takeWhile_append_dropWhile.symm⟩

/-- The head of a table is the keyword, a name behind blanks, and an opening brace behind blanks or
none. -/
theorem takeTableHead?_eq_some_iff {text name opened : List Char} :
    takeTableHead? text = some (name, opened) ↔
      ∃ gap space, gap ≠ [] ∧ IsBlankText gap ∧ IsBlankText space ∧ isWord name = true ∧
        opened.head? = some '\x7b' ∧
          text = tableKeyword ++ (gap ++ (name ++ (space ++ opened))) := by
  constructor
  · intro h
    simp only [takeTableHead?, Option.bind_eq_bind, Option.bind_eq_some_iff] at h
    obtain ⟨after, hkeyword, ⟨⟩, hblank, ⟨word, behind⟩, hword, ⟨⟩, hbrace, hsome⟩ := h
    obtain ⟨rfl, rfl⟩ := Prod.mk.inj (Option.some.inj hsome)
    have hgap : after.head?.any isBlank = true := by
      by_contra hnot
      simp [hnot] at hblank
    have hopened : (trimStart behind).head? = some '\x7b' := by
      by_contra hnot
      simp [hnot] at hbrace
    obtain ⟨gap, hgapBlank, hafter⟩ := exists_gap after
    obtain ⟨space, hspace, hbehind⟩ := exists_gap behind
    have hnonempty : gap ≠ [] := by
      rintro rfl
      rw [hafter, List.nil_append, trimStart, head?_any_dropWhile] at hgap
      cases hgap
    obtain ⟨hname, -, htaken⟩ := takeWord?_eq_some_iff.mp hword
    refine ⟨gap, space, hnonempty, hgapBlank, hspace, hname, hopened, ?_⟩
    rw [afterPrefix?_eq_some hkeyword, ← hbehind, ← htaken, ← hafter]
  · rintro ⟨gap, space, hgap, hblank, hspace, hname, hopened, rfl⟩
    obtain ⟨c, more, hc⟩ := List.exists_cons_of_ne_nil hgap
    obtain ⟨d, word, hd, hword⟩ := exists_of_isWord hname
    have hhead : (gap ++ (name ++ (space ++ opened))).head?.any isBlank = true := by
      rw [hc]
      exact hblank c (by simp [hc])
    have hstart : trimStart (gap ++ (name ++ (space ++ opened))) = name ++ (space ++ opened) :=
      trimStart_append hblank (by simpa [hd] using isBlank_of_isWordChar hword)
    have hend : (space ++ opened).head?.any isWordChar = false := by
      cases space with
      | nil =>
          rw [List.nil_append, hopened]
          decide
      | cons e space => simpa using isWordChar_of_isBlank (hspace e List.mem_cons_self)
    have hbrace : trimStart (space ++ opened) = opened :=
      trimStart_append hspace (by rw [hopened]; decide)
    simp only [takeTableHead?, afterPrefix?_append, hhead, hstart, takeWord?_append hname hend,
      hbrace, hopened, Option.bind_eq_bind, Option.bind_some, beq_self_eq_true, guard_true,
      Option.pure_def]

/-! ## Blocks -/

/-- A block with its keyword, its name and both of its braces. -/
structure Block.IsComplete (block : Block) : Prop where
  name : isWord block.name = true
  text : ∃ gap space, gap ≠ [] ∧ IsBlankText gap ∧ IsBlankText space ∧ block.text =
    tableKeyword ++ (gap ++ (block.name ++ (space ++ '\x7b' :: (block.body ++ ['\x7d']))))
  closed : closingBrace? ('\x7b' :: (block.body ++ ['\x7d'])) = some (block.body.length + 1)

theorem Block.IsComplete.closed_append {block : Block} (h : block.IsComplete) :
    QuoteState.outside.run ('\x7b' :: block.body) = .outside ∧
      ∀ rest, closingBrace? ('\x7b' :: (block.body ++ '\x7d' :: rest)) =
        some (block.body.length + 1) :=
  have hclosed : closingBraceFrom .outside 0 (('\x7b' :: block.body) ++ '\x7d' :: []) =
      some ('\x7b' :: block.body).length := h.closed
  closingBraceFrom_of_closed hclosed

/-- A block is cut behind its closing brace. -/
theorem takeBlock?_of_closed {previous : Option Char} {front name body rest : List Char}
    (hprevious : isBoundary previous = true)
    (hhead : takeTableHead? (front ++ '\x7b' :: (body ++ '\x7d' :: rest)) =
      some (name, '\x7b' :: (body ++ '\x7d' :: rest)))
    (hclosed : closingBrace? ('\x7b' :: (body ++ '\x7d' :: rest)) = some (body.length + 1)) :
    takeBlock? previous (front ++ '\x7b' :: (body ++ '\x7d' :: rest)) =
      some (⟨name, body, front ++ '\x7b' :: (body ++ ['\x7d'])⟩, rest) := by
  have hrest : (body ++ '\x7d' :: rest).drop (body.length + 1) = rest := by
    rw [← List.drop_drop, List.drop_left]
    rfl
  have htext : front ++ '\x7b' :: (body ++ '\x7d' :: rest) =
      (front ++ '\x7b' :: (body ++ ['\x7d'])) ++ rest := by simp
  have htake : (front ++ '\x7b' :: (body ++ '\x7d' :: rest)).take
      ((front ++ '\x7b' :: (body ++ '\x7d' :: rest)).length - rest.length) =
        front ++ '\x7b' :: (body ++ ['\x7d']) := by
    rw [htext, List.length_append, Nat.add_sub_cancel, List.take_left]
  simp only [takeBlock?, hprevious, hhead, hclosed, Option.bind_eq_bind, Option.bind_some,
    guard_true, Option.pure_def, List.drop_succ_cons, List.take_succ_cons, List.take_left, hrest,
    List.drop_zero, htake]

/-- A block is taken exactly if it stands at a boundary in front of something, and is complete. -/
theorem takeBlock?_eq_some_iff {previous : Option Char} {text rest : List Char} {block : Block} :
    takeBlock? previous text = some (block, rest) ↔
      isBoundary previous = true ∧ block.IsComplete ∧ text = block.text ++ rest := by
  constructor
  · intro h
    have hparts := h
    simp only [takeBlock?, Option.bind_eq_bind, Option.bind_eq_some_iff] at hparts
    obtain ⟨⟨⟩, hguard, ⟨name, opened⟩, hhead, close, hclose, -⟩ := hparts
    have hprevious : isBoundary previous = true := by
      by_contra hnot
      simp [hnot] at hguard
    obtain ⟨gap, space, hgap, hblank, hspace, hname, hopened, htext⟩ :=
      takeTableHead?_eq_some_iff.mp hhead
    obtain ⟨inner, behind, rfl, rfl, hrun, hmore⟩ := closingBraceFrom_eq_some hclose
    obtain ⟨body, rfl⟩ : ∃ body, inner = '\x7b' :: body := by
      cases inner with
      | nil => simp at hopened
      | cons c body => exact ⟨body, by simpa using hopened⟩
    have hfront : text = (tableKeyword ++ (gap ++ (name ++ space))) ++
        '\x7b' :: (body ++ '\x7d' :: behind) := by simpa using htext
    rw [hfront] at hhead h
    rw [takeBlock?_of_closed hprevious hhead hclose] at h
    obtain ⟨rfl, rfl⟩ := Prod.mk.inj (Option.some.inj h)
    refine ⟨hprevious, ⟨hname, ⟨gap, space, hgap, hblank, hspace, by simp⟩, hmore []⟩, ?_⟩
    rw [hfront]
    simp
  · rintro ⟨hprevious, hcomplete, rfl⟩
    obtain ⟨gap, space, hgap, hblank, hspace, htext⟩ := hcomplete.text
    obtain ⟨-, hclosed⟩ := hcomplete.closed_append
    have hfront : block.text ++ rest = (tableKeyword ++ (gap ++ (block.name ++ space))) ++
        '\x7b' :: (block.body ++ '\x7d' :: rest) := by simp [htext]
    have hhead : takeTableHead? (block.text ++ rest) =
        some (block.name, '\x7b' :: (block.body ++ '\x7d' :: rest)) :=
      takeTableHead?_eq_some_iff.mpr ⟨gap, space, hgap, hblank, hspace, hcomplete.name,
        rfl, by simp [htext]⟩
    rw [hfront] at hhead ⊢
    rw [takeBlock?_of_closed hprevious hhead (hclosed rest)]
    congr
    simp [htext]

/-- A scanner outside of strings passes a block without noticing: the strings in it are closed. -/
theorem Block.IsComplete.run_text {block : Block} (h : block.IsComplete) :
    QuoteState.outside.run block.text = .outside := by
  obtain ⟨gap, space, -, hgap, hspace, htext⟩ := h.text
  obtain ⟨hbody, -⟩ := h.closed_append
  have hname : IsPlain block.name := (quiet_of_isWord h.name).isPlain
  have hkeyword : IsPlain tableKeyword := (quiet_of_all (by decide)).isPlain
  have hbrace : IsPlain ['\x7d'] := by
    intro c hc
    rw [List.mem_singleton.mp hc]
    decide
  have hsplit : block.text = tableKeyword ++ (gap ++ (block.name ++ (space ++
      (('\x7b' :: block.body) ++ ['\x7d'])))) := by simp [htext]
  simp only [hsplit, QuoteState.run_append, run_of_isPlain hkeyword, run_of_isPlain hgap.isPlain,
    run_of_isPlain hname, run_of_isPlain hspace.isPlain, hbody, run_of_isPlain hbrace]

theorem Block.IsComplete.getLast?_text {block : Block} (h : block.IsComplete) :
    block.text.getLast? = some '\x7d' := by
  obtain ⟨gap, space, -, -, -, htext⟩ := h.text
  have hsplit : block.text = (tableKeyword ++ (gap ++ (block.name ++ (space ++
      '\x7b' :: block.body)))) ++ ['\x7d'] := by simp [htext]
  rw [hsplit, List.getLast?_concat]

theorem takeBlock?_nil (previous : Option Char) : takeBlock? previous [] = none := by
  simp only [takeBlock?]
  cases isBoundary previous <;> rfl

/-- The line break at the end of a text belongs to no block. -/
theorem unaffected_takeBlock? : Occurrences.Unaffected takeBlock? ['\n'] := by
  intro previous text
  cases htake : takeBlock? previous text with
  | some found =>
      obtain ⟨block, rest⟩ := found
      obtain ⟨hprevious, hcomplete, rfl⟩ := takeBlock?_eq_some_iff.mp htake
      exact takeBlock?_eq_some_iff.mpr ⟨hprevious, hcomplete, List.append_assoc _ _ _⟩
  | none =>
      rw [Option.map_none, ← Option.not_isSome_iff_eq_none, Option.isSome_iff_exists]
      rintro ⟨⟨block, rest⟩, hsome⟩
      obtain ⟨hprevious, hcomplete, hsplit⟩ := takeBlock?_eq_some_iff.mp hsome
      -- The block ends in a brace, so that the line break stands behind it.
      rcases List.eq_nil_or_concat' rest with rfl | ⟨more, c, rfl⟩
      · rw [List.append_nil] at hsplit
        have hlast := hcomplete.getLast?_text
        rw [← hsplit, List.getLast?_concat] at hlast
        exact absurd (Option.some.inj hlast) (by decide)
      · rw [← List.append_assoc] at hsplit
        obtain ⟨rfl, -⟩ := List.append_inj' hsplit rfl
        have hfound : takeBlock? previous (block.text ++ more) = some (block, more) :=
          takeBlock?_eq_some_iff.mpr ⟨hprevious, hcomplete, rfl⟩
        rw [htake] at hfound
        cases hfound

end SchemaDiagram.SchemaText
