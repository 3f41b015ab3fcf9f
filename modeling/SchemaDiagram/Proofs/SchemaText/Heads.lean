import SchemaDiagram.Proofs.SchemaText.Appended
import SchemaDiagram.Proofs.SchemaText.Braces

/-!
# Heads of tables

A head is what stands in front of the opening brace of a table, whether this brace is closed or not.
A block starts at every head whose brace is closed, and nowhere else; no head starts within another
one.  So a search for blocks may as well go from one head to the next.
-/

namespace SchemaDiagram.SchemaText

open SchemaDiagram.Text

/-! ## What stands in front of an opening brace -/

/-- The keyword and a name, with blanks between them and maybe behind them. -/
def IsHead (name head : List Char) : Prop :=
  isWord name = true ∧ ∃ gap space, gap ≠ [] ∧ IsBlankText gap ∧ IsBlankText space ∧
    head = tableKeyword ++ (gap ++ (name ++ space))

theorem takeTableHead?_iff_isHead {text name opened : List Char} :
    takeTableHead? text = some (name, opened) ↔
      ∃ head behind, IsHead name head ∧ opened = '\x7b' :: behind ∧ text = head ++ opened := by
  rw [takeTableHead?_eq_some_iff]
  constructor
  · rintro ⟨gap, space, hgap, hblank, hspace, hname, hopened, rfl⟩
    obtain ⟨behind, rfl⟩ := List.head?_eq_some_iff.mp hopened
    exact ⟨_, behind, ⟨hname, gap, space, hgap, hblank, hspace, rfl⟩, rfl, by simp⟩
  · rintro ⟨head, behind, ⟨hname, gap, space, hgap, hblank, hspace, rfl⟩, rfl, rfl⟩
    exact ⟨gap, space, hgap, hblank, hspace, hname, rfl, by simp⟩

theorem IsHead.takeTableHead? {name head : List Char} (h : IsHead name head)
    (behind : List Char) :
    SchemaText.takeTableHead? (head ++ '\x7b' :: behind) = some (name, '\x7b' :: behind) :=
  takeTableHead?_iff_isHead.mpr ⟨head, behind, h, rfl, rfl⟩

theorem IsBlankText.not_mem {text : List Char} {c : Char} (h : IsBlankText text)
    (hc : isBlank c = false) : c ∉ text := by
  intro hmem
  rw [h c hmem] at hc
  cases hc

/-- No closing brace stands in a head. -/
theorem IsHead.not_mem {name head : List Char} (h : IsHead name head) : '\x7d' ∉ head := by
  obtain ⟨hname, gap, space, -, hgap, hspace, rfl⟩ := h
  simp only [List.mem_append, not_or]
  exact ⟨by decide, hgap.not_mem (by decide), not_mem_of_isWord hname (by decide),
    hspace.not_mem (by decide)⟩

theorem Block.IsComplete.exists_head {block : Block} (h : block.IsComplete) :
    ∃ head, IsHead block.name head ∧
      block.text = head ++ '\x7b' :: (block.body ++ ['\x7d']) := by
  obtain ⟨gap, space, hgap, hblank, hspace, htext⟩ := h.text
  exact ⟨_, ⟨h.name, gap, space, hgap, hblank, hspace, rfl⟩, by simp [htext]⟩

/-! ## Blocks at heads -/

/-- A brace that is closed has a body behind it. -/
theorem exists_body_of_closingBrace? {behind : List Char} {close : Nat}
    (h : closingBrace? ('\x7b' :: behind) = some close) :
    ∃ body rest, behind = body ++ '\x7d' :: rest ∧ close = body.length + 1 := by
  obtain ⟨inner, rest, hsplit, rfl, -, -⟩ := closingBraceFrom_eq_some h
  cases inner with
  | nil => cases (List.cons.inj hsplit).1
  | cons c body => exact ⟨body, rest, (List.cons.inj hsplit).2, rfl⟩

/-- At a head whose brace is closed, a block is taken. -/
theorem IsHead.takeBlock?_of_closed {name head body rest : List Char} (h : IsHead name head)
    {previous : Option Char} (hprevious : isBoundary previous = true)
    (hclosed : closingBrace? ('\x7b' :: (body ++ '\x7d' :: rest)) = some (body.length + 1)) :
    takeBlock? previous (head ++ '\x7b' :: (body ++ '\x7d' :: rest)) =
      some (⟨name, body, head ++ '\x7b' :: (body ++ ['\x7d'])⟩, rest) :=
  SchemaText.takeBlock?_of_closed hprevious (h.takeTableHead? _) hclosed

/-- At a head whose brace is not closed, no block is taken. -/
theorem IsHead.takeBlock?_of_unclosed {name head behind : List Char} (h : IsHead name head)
    (hnone : closingBrace? ('\x7b' :: behind) = none) (previous : Option Char) :
    takeBlock? previous (head ++ '\x7b' :: behind) = none := by
  simp only [takeBlock?, h.takeTableHead? behind, Option.bind_eq_bind, Option.bind_some, hnone,
    Option.bind_none, Option.bind_fun_none]

/-! ## Within a head -/

/-- The name of a table in front of its opening brace is no head. -/
theorem takeTableHead?_name {name space : List Char} (hname : isWord name = true)
    (hspace : IsBlankText space) (behind : List Char) :
    takeTableHead? (name ++ (space ++ '\x7b' :: behind)) = none := by
  rw [← Option.not_isSome_iff_eq_none, Option.isSome_iff_exists]
  rintro ⟨⟨other, opened⟩, htake⟩
  obtain ⟨gap, blanks, hgap, hblank, -, hother, -, htext⟩ := takeTableHead?_eq_some_iff.mp htake
  obtain ⟨c, more, hc⟩ := List.exists_cons_of_ne_nil hgap
  obtain ⟨d, word, rfl, hd⟩ := exists_of_isWord hother
  -- Both texts start with a word and blanks; behind these stands a brace here, and a word there.
  have hbrace : (space ++ '\x7b' :: behind).head?.any isWordChar = false := by
    cases space with
    | nil => rfl
    | cons e space => simpa using isWordChar_of_isBlank (hspace e List.mem_cons_self)
  have hword : (gap ++ (d :: word ++ (blanks ++ opened))).head?.any isWordChar = false := by
    rw [hc]
    simpa using isWordChar_of_isBlank (hblank c (by simp [hc]))
  have htaken := takeWord?_append hname hbrace
  rw [htext, takeWord?_append (by decide) hword, Option.some_inj, Prod.mk.injEq] at htaken
  have hopen : isBlank '\x7b' = false := by decide
  have htrim := congrArg trimStart htaken.2
  rw [trimStart_append hspace (by simpa using hopen),
    trimStart_append hblank (by simpa using isBlank_of_isWordChar hd)] at htrim
  obtain rfl := (List.cons.inj htrim).1
  exact absurd hd (by decide)

/-- No block starts in the name of a table in front of its opening brace. -/
theorem skips_name {name space : List Char} (hname : isWord name = true)
    (hspace : IsBlankText space) (behind : List Char) (previous : Option Char) :
    Occurrences.Skips takeBlock? (space ++ '\x7b' :: behind) previous name := by
  have hhead := takeTableHead?_name hname hspace behind
  obtain ⟨c, word, rfl, hc⟩ := exists_of_isWord hname
  have hnone : takeBlock? previous (c :: word ++ (space ++ '\x7b' :: behind)) = none := by
    simp only [takeBlock?, hhead]
    cases isBoundary previous <;> rfl
  exact ⟨hnone, skips_within_word hc
    (fun d hd => (isWord_iff.mp hname).2 d (List.mem_cons_of_mem c hd)) _⟩

/-- Where no block is taken at a head, none starts up to the opening brace. -/
theorem IsHead.skips {name head : List Char} (h : IsHead name head) {behind : List Char}
    {previous : Option Char} (hnone : takeBlock? previous (head ++ '\x7b' :: behind) = none) :
    Occurrences.Skips takeBlock? behind previous (head ++ ['\x7b']) := by
  obtain ⟨hname, gap, space, -, hgap, hspace, rfl⟩ := h
  have hblanks : ∀ text, IsBlankText text → Tableless text :=
    fun text htext => tableless_of_not_mem (htext.not_mem (by decide))
  have hletters : Tableless ['a', 'b', 'l', 'e'] := tableless_of_not_mem (by decide)
  have hbrace : Tableless ['\x7b'] := tableless_of_not_mem (by decide)
  have hfront := hletters.append (hblanks gap hgap)
  have hend := (hblanks space hspace).append hbrace
  have hrest : (space ++ ['\x7b']) ++ behind = space ++ '\x7b' :: behind := by simp
  have hword := fun last => hrest ▸ skips_name hname hspace behind last
  have hmore := Occurrences.skips_append (hfront (some 'T') _)
    (Occurrences.skips_append (hword _) (hend _ behind))
  have hsplit : tableKeyword ++ (gap ++ (name ++ space)) ++ ['\x7b'] =
      'T' :: ((['a', 'b', 'l', 'e'] ++ gap) ++ (name ++ (space ++ ['\x7b']))) := by
    simp [tableKeyword]
  rw [hsplit]
  refine ⟨?_, hmore⟩
  rw [← hsplit]
  simpa using hnone

/-! ## Places of heads -/

/-- The name in the head that stands at a position of a text, and the position of the opening brace
behind it. -/
def headAt? (text : List Char) (start : Nat) : Option (List Char × Nat) := do
  guard (isBoundary (text.take start).getLast?)
  let (name, opened) ← takeTableHead? (text.drop start)
  return (name, text.length - opened.length)

theorem headAt?_eq_some_iff {text name : List Char} {start brace : Nat} :
    headAt? text start = some (name, brace) ↔
      ∃ front head behind, isBoundary front.getLast? = true ∧ IsHead name head ∧
        text = front ++ (head ++ '\x7b' :: behind) ∧ start = front.length ∧
          brace = front.length + head.length := by
  constructor
  · intro h
    simp only [headAt?, Option.bind_eq_bind, Option.bind_eq_some_iff] at h
    obtain ⟨⟨⟩, hguard, ⟨word, opened⟩, hhead, hsome⟩ := h
    obtain ⟨rfl, hbrace⟩ := Prod.mk.inj (Option.some.inj hsome)
    have hboundary := (Option.guard_eq_some' _).mp hguard
    obtain ⟨head, behind, hword, rfl, hdrop⟩ := takeTableHead?_iff_isHead.mp hhead
    have htotal := congrArg List.length hdrop
    rw [List.length_drop, List.length_append, List.length_cons] at htotal
    have hlength : (text.take start).length = start := by
      rw [List.length_take]
      omega
    refine ⟨text.take start, head, behind, hboundary, hword, ?_, hlength.symm, ?_⟩
    · rw [← hdrop, List.take_append_drop]
    · rw [hlength, ← hbrace, List.length_cons]
      omega
  · rintro ⟨front, head, behind, hboundary, hhead, rfl, rfl, rfl⟩
    simp only [headAt?, List.take_left, List.drop_left, hboundary, hhead.takeTableHead? behind,
      Option.bind_eq_bind, Option.bind_some, guard_true, Option.pure_def, List.length_append,
      Option.some_inj, Prod.mk.injEq, true_and]
    omega

end SchemaDiagram.SchemaText
