import Mathlib.Data.Option.Basic
import SchemaDiagram.Proofs.SchemaText.Quote
import SchemaDiagram.SchemaText.Block
import SchemaDiagram.SchemaText.Comment

/-!
# Segments that no scanner looks into

Comments, braces and index blocks are each found by a scanner of its own, and each of them knows
quotes.  A segment is sealed if its strings are closed and nothing outside of them is a brace or
starts a comment; quoted texts are sealed, whatever they hold.  What a scanner does on a segment is
said for every text behind it, so that segments can be put together: no comment starts in a sealed
segment, its braces are balanced, and no index block opens in it.
-/

namespace SchemaDiagram.SchemaText

open SchemaDiagram.Text

/-! ## Sealed segments -/

/-- A scanner that enters a segment in this state leaves it outside of strings, and no unquoted
character of the segment is a brace or starts a comment. -/
def QuoteState.Seals : QuoteState → List Char → Prop
  | state, [] => state = .outside
  | state, c :: rest =>
    ((state.step c).2 = false →
      c ≠ '\x7b' ∧ c ≠ '\x7d' ∧ ¬ (c = '/' ∧ rest.head? = some '/')) ∧
    (state.step c).1.Seals rest

instance QuoteState.decidableSeals :
    (state : QuoteState) → (segment : List Char) → Decidable (state.Seals segment)
  | state, [] => inferInstanceAs (Decidable (state = .outside))
  | state, c :: rest =>
    have := decidableSeals (state.step c).1 rest
    inferInstanceAs (Decidable (_ ∧ _))

/-- A segment that is sealed for a scanner outside of strings. -/
abbrev Sealed (segment : List Char) : Prop :=
  QuoteState.outside.Seals segment

theorem QuoteState.Seals.append {state : QuoteState} {segment more : List Char}
    (h : state.Seals segment) (hmore : Sealed more) (hhead : more.head? ≠ some '/') :
    state.Seals (segment ++ more) := by
  induction segment generalizing state with
  | nil =>
      obtain rfl : state = .outside := h
      exact hmore
  | cons c segment ih =>
      obtain ⟨hfirst, hrest⟩ := h
      refine ⟨fun hstep => ?_, ih hrest⟩
      obtain ⟨hopen, hclose, hslash⟩ := hfirst hstep
      refine ⟨hopen, hclose, fun hboth => ?_⟩
      cases segment with
      | nil => exact hhead hboth.2
      | cons d segment => exact hslash hboth

/-- A segment without quotes. -/
def IsPlain (segment : List Char) : Prop :=
  ∀ c ∈ segment, isQuote c = false

theorem step_outside_plain {c : Char} (h : isQuote c = false) :
    QuoteState.outside.step c = (.outside, false) := by
  simp [QuoteState.step, h]

/-- Two slashes do not stand side by side. -/
def NoSlashes (segment : List Char) : Prop :=
  ¬ ['/', '/'] <:+: segment

theorem sealed_plain {segment : List Char} (hplain : IsPlain segment) (hopen : '\x7b' ∉ segment)
    (hclose : '\x7d' ∉ segment) (hslashes : NoSlashes segment) : Sealed segment := by
  induction segment with
  | nil => exact rfl
  | cons c segment ih =>
      rw [List.mem_cons, not_or] at hopen hclose
      have hmore : NoSlashes segment := fun h => hslashes (h.trans (List.suffix_cons c _).isInfix)
      have hrest := ih (fun d hd => hplain d (List.mem_cons_of_mem c hd)) hopen.2 hclose.2 hmore
      have hstep := step_outside_plain (hplain c List.mem_cons_self)
      refine ⟨fun _ => ⟨Ne.symm hopen.1, Ne.symm hclose.1, ?_⟩, by rwa [hstep]⟩
      rintro ⟨rfl, hhead⟩
      obtain ⟨more, rfl⟩ := List.head?_eq_some_iff.mp hhead
      exact hslashes ⟨[], more, rfl⟩

/-- A segment is sealed if it is quoted as a whole and its strings are closed. -/
theorem QuoteState.seals_of_marks {state : QuoteState} {segment : List Char}
    (hmarks : ∀ quoted ∈ state.marks segment, quoted = true)
    (hrun : state.run segment = .outside) : state.Seals segment := by
  induction segment generalizing state with
  | nil => exact hrun
  | cons c segment ih =>
      obtain ⟨hfirst, hrest⟩ := List.forall_mem_cons.mp hmarks
      refine ⟨fun hunquoted => ?_, ih hrest hrun⟩
      rw [hfirst] at hunquoted
      cases hunquoted

/-- Quotes and what stands between them. -/
theorem sealed_quote (text : List Char) : Sealed (quote text) := by
  obtain ⟨hmarks, hrun⟩ := scan_quote text
  refine QuoteState.seals_of_marks (fun quoted hquoted => ?_) hrun
  rw [hmarks] at hquoted
  exact List.eq_of_mem_replicate hquoted

/-- Plain text in front of a sealed segment can be left out. -/
theorem sealed_of_plain_append {front segment : List Char} (hfront : IsPlain front)
    (h : Sealed (front ++ segment)) : Sealed segment := by
  induction front with
  | nil => exact h
  | cons c front ih =>
      have hrest := h.2
      rw [step_outside_plain (hfront c List.mem_cons_self)] at hrest
      exact ih (fun d hd => hfront d (List.mem_cons_of_mem c hd)) hrest

/-- A sealed segment does not start with a brace. -/
theorem head?_ne_of_sealed {segment : List Char} (h : Sealed segment) :
    segment.head? ≠ some '\x7b' := by
  intro hhead
  obtain ⟨rest, rfl⟩ := List.head?_eq_some_iff.mp hhead
  exact (h.1 rfl).1 rfl

/-! ## Comments -/

/-- No comment starts in a segment. -/
def Commentless (segment : List Char) : Prop :=
  ∀ rest, rest.head? ≠ some '/' →
    cutComment .outside (segment ++ rest) = segment ++ cutComment .outside rest

theorem Commentless.append {segment more : List Char} (h : Commentless segment)
    (hmore : Commentless more) (hhead : more.head? ≠ some '/') : Commentless (segment ++ more) := by
  intro rest hrest
  have hnext : (more ++ rest).head? ≠ some '/' := by
    cases more with
    | nil => exact hrest
    | cons c more => exact hhead
  rw [List.append_assoc, h _ hnext, hmore _ hrest, List.append_assoc]

theorem QuoteState.Seals.cutComment_append {state : QuoteState} {segment rest : List Char}
    (h : state.Seals segment) (hrest : rest.head? ≠ some '/') :
    cutComment state (segment ++ rest) = segment ++ cutComment .outside rest := by
  induction segment generalizing state with
  | nil =>
      obtain rfl : state = .outside := h
      rfl
  | cons c segment ih =>
      have hnone : (!(state.step c).2 && c == '/' && (segment ++ rest).head? == some '/') =
          false := by
        by_contra hsome
        simp only [Bool.not_eq_false, Bool.and_eq_true, Bool.not_eq_true', beq_iff_eq] at hsome
        obtain ⟨⟨hstep, hslash⟩, hhead⟩ := hsome
        cases segment with
        | nil => exact hrest hhead
        | cons d segment => exact (h.1 hstep).2.2 ⟨hslash, hhead⟩
      rw [List.cons_append, cutComment, hnone, if_neg Bool.false_ne_true, ih h.2,
        List.cons_append]

theorem commentless_of_sealed {segment : List Char} (h : Sealed segment) : Commentless segment :=
  fun _ hrest => h.cutComment_append hrest

/-! ## Braces -/

/-- The braces of a segment are balanced, quoted ones left aside. -/
def Balanced (segment : List Char) : Prop :=
  ∀ depth rest, closingBraceFrom .outside (depth + 1) (segment ++ rest) =
    (closingBraceFrom .outside (depth + 1) rest).map (· + segment.length)

theorem balanced_nil : Balanced [] := by
  intro depth rest
  simp

theorem Balanced.append {segment more : List Char} (h : Balanced segment)
    (hmore : Balanced more) : Balanced (segment ++ more) := by
  intro depth rest
  rw [List.append_assoc, h, hmore, Option.map_map, List.length_append]
  congr 1
  funext n
  simp only [Function.comp]
  omega

theorem QuoteState.Seals.closingBraceFrom_append {state : QuoteState} {segment : List Char}
    (h : state.Seals segment) (depth : Nat) (rest : List Char) :
    closingBraceFrom state depth (segment ++ rest) =
      (closingBraceFrom .outside depth rest).map (· + segment.length) := by
  induction segment generalizing state with
  | nil =>
      obtain rfl : state = .outside := h
      simp
  | cons c segment ih =>
      have hnext : closingBraceFrom state depth (c :: (segment ++ rest)) =
          (closingBraceFrom (state.step c).1 depth (segment ++ rest)).map (· + 1) := by
        rw [closingBraceFrom]
        by_cases hquoted : (state.step c).2 = true
        · simp only [hquoted, if_true]
        · obtain ⟨hopen, hclose, -⟩ := h.1 (by simpa using hquoted)
          simp only [hquoted, hopen, hclose, Bool.false_eq_true, if_false]
      rw [List.cons_append, hnext, ih h.2, Option.map_map]
      rfl

theorem balanced_of_sealed {segment : List Char} (h : Sealed segment) : Balanced segment :=
  fun depth rest => h.closingBraceFrom_append (depth + 1) rest

/-- The closing brace of a balanced segment in braces is the one behind it. -/
theorem Balanced.closing {segment : List Char} (h : Balanced segment) (depth : Nat)
    (rest : List Char) :
    closingBraceFrom .outside depth ('\x7b' :: (segment ++ '\x7d' :: rest)) =
      if depth = 0 then some (segment.length + 1)
      else (closingBraceFrom .outside depth rest).map (· + (segment.length + 2)) := by
  have hopen : closingBraceFrom .outside depth ('\x7b' :: (segment ++ '\x7d' :: rest)) =
      (closingBraceFrom .outside (depth + 1) (segment ++ '\x7d' :: rest)).map (· + 1) := rfl
  have hclose : closingBraceFrom .outside (depth + 1) ('\x7d' :: rest) =
      if depth + 1 ≤ 1 then some 0
      else (closingBraceFrom .outside depth rest).map (· + 1) := rfl
  rw [hopen, h, hclose]
  cases depth with
  | zero => simp
  | succ depth =>
      rw [if_neg (by omega), if_neg (Nat.succ_ne_zero depth), Option.map_map, Option.map_map]
      congr 1
      funext n
      simp only [Function.comp]
      omega

/-- A balanced segment in braces is balanced. -/
theorem Balanced.braces {segment : List Char} (h : Balanced segment) :
    Balanced ('\x7b' :: (segment ++ ['\x7d'])) := by
  intro depth rest
  have hclosing := h.closing (depth + 1) rest
  rw [if_neg (Nat.succ_ne_zero depth)] at hclosing
  simpa using hclosing

theorem Balanced.closingBrace? {segment : List Char} (h : Balanced segment) (rest : List Char) :
    closingBrace? ('\x7b' :: (segment ++ '\x7d' :: rest)) = some (segment.length + 1) := by
  rw [SchemaText.closingBrace?, h.closing, if_pos rfl]

/-! ## Index blocks -/

/-- A text that cannot complete the head of an index block. -/
def Ahead (rest : List Char) : Prop :=
  rest.head?.any isWordChar = false ∧ (trimStart rest).head? ≠ some '\x7b'

/-- No index block opens in a segment. -/
def Indexless (segment : List Char) : Prop :=
  ∀ previous rest, Ahead rest → ∃ last,
    splitAtIndexes? .outside previous (segment ++ rest) =
      (splitAtIndexes? .outside last rest).map fun (before, opened) => (segment ++ before, opened)

theorem indexless_nil : Indexless [] := by
  intro previous rest _
  exact ⟨previous, by simp⟩

theorem Indexless.append {segment more : List Char} (h : Indexless segment)
    (hmore : Indexless more) (hahead : ∀ rest, Ahead rest → Ahead (more ++ rest)) :
    Indexless (segment ++ more) := by
  intro previous rest hrest
  obtain ⟨between, hbetween⟩ := h previous (more ++ rest) (hahead rest hrest)
  obtain ⟨last, hlast⟩ := hmore between rest hrest
  refine ⟨last, ?_⟩
  rw [List.append_assoc, hbetween, hlast, Option.map_map]
  congr 1
  funext found
  simp

/-- Blanks are no quotes. -/
theorem isQuote_of_isBlank {c : Char} (h : isBlank c = true) : isQuote c = false := by
  by_contra hquote
  rw [Bool.not_eq_false, isQuote, Bool.or_eq_true, beq_iff_eq, beq_iff_eq] at hquote
  rcases hquote with rfl | rfl
  · exact absurd h (by decide)
  · exact absurd h (by decide)

theorem isWordChar_indexesKeyword : ∀ c ∈ indexesKeyword, isWordChar c = true :=
  List.all_eq_true.mp (by decide)

theorem isPlain_indexesKeyword : IsPlain indexesKeyword := by
  intro c hc
  have hplain := List.all_eq_true.mp
    (by decide : (indexesKeyword.all fun c => !isQuote c) = true) c hc
  simpa using hplain

/-- No head of an index block starts with a sealed segment. -/
theorem takeIndexesHead?_eq_none {segment rest : List Char} (h : Sealed segment)
    (hrest : Ahead rest) : takeIndexesHead? (segment ++ rest) = none := by
  obtain ⟨hword, hbrace⟩ := hrest
  cases hkeyword : afterPrefix? indexesKeyword (segment ++ rest) with
  | none => simp [takeIndexesHead?, hkeyword]
  | some after =>
      have hafter : (trimStart after).head? ≠ some '\x7b' := by
        obtain ⟨tail, hsplit, rfl⟩ | ⟨tail, rfl, rfl⟩ :=
          List.append_eq_append_iff.mp (afterPrefix?_eq_some hkeyword)
        · cases tail with
          | nil => exact hbrace
          | cons c tail =>
              have hc := isWordChar_indexesKeyword c (by rw [hsplit]; simp)
              simp [hc] at hword
        · -- Keyword and blanks are plain, so that what follows them is sealed as well.
          have htail := sealed_of_plain_append isPlain_indexesKeyword h
          rw [← List.takeWhile_append_dropWhile (p := isBlank) (l := tail)] at htail
          have hblanks : IsPlain (tail.takeWhile isBlank) := fun c hc =>
            isQuote_of_isBlank (List.mem_takeWhile_imp hc)
          have hnext := head?_ne_of_sealed (sealed_of_plain_append hblanks htail)
          rw [trimStart, List.dropWhile_append]
          split
          · exact hbrace
          · next hnonempty =>
              cases hdrop : tail.dropWhile isBlank with
              | nil => simp [hdrop] at hnonempty
              | cons c more => simpa [hdrop] using hnext
      simp [takeIndexesHead?, hkeyword, hafter]

theorem QuoteState.Seals.exists_splitAtIndexes? {state : QuoteState} {segment rest : List Char}
    (h : state.Seals segment) (hrest : Ahead rest) (previous : Option Char) :
    ∃ last, splitAtIndexes? state previous (segment ++ rest) =
      (splitAtIndexes? .outside last rest).map
        fun (before, opened) => (segment ++ before, opened) := by
  induction segment generalizing state previous with
  | nil =>
      obtain rfl : state = .outside := h
      exact ⟨previous, by simp⟩
  | cons c segment ih =>
      have hhead : (if isBoundary previous && !state.isInside then
          takeIndexesHead? (c :: (segment ++ rest)) else none) = none := by
        cases state with
        | outside =>
            have hnone : takeIndexesHead? (c :: (segment ++ rest)) = none :=
              takeIndexesHead?_eq_none h hrest
            rw [hnone, ite_self]
        | inside mark => simp [QuoteState.isInside]
        | escaped mark => simp [QuoteState.isInside]
      obtain ⟨last, hlast⟩ := ih h.2 (some c)
      refine ⟨last, ?_⟩
      rw [List.cons_append, splitAtIndexes?, hhead, hlast]
      simp only [Option.map_map]
      congr 1

theorem indexless_of_sealed {segment : List Char} (h : Sealed segment) : Indexless segment :=
  fun previous _ hrest => h.exists_splitAtIndexes? hrest previous

/-! ## Inert segments -/

/-- A segment without line breaks. -/
def Unbroken (segment : List Char) : Prop :=
  '\n' ∉ segment ∧ '\r' ∉ segment

theorem Unbroken.append {segment more : List Char} (h : Unbroken segment)
    (hmore : Unbroken more) : Unbroken (segment ++ more) :=
  ⟨fun hmem => (List.mem_append.mp hmem).elim h.1 hmore.1,
    fun hmem => (List.mem_append.mp hmem).elim h.2 hmore.2⟩

/-- A segment of one line that no scanner looks into. -/
structure Inert (segment : List Char) : Prop where
  closed : Sealed segment
  unbroken : Unbroken segment

theorem Inert.append {segment more : List Char} (h : Inert segment) (hmore : Inert more)
    (hslash : more.head? ≠ some '/') : Inert (segment ++ more) :=
  ⟨h.closed.append hmore.closed hslash, h.unbroken.append hmore.unbroken⟩

theorem inert_quote (text : List Char) : Inert (quote text) :=
  ⟨sealed_quote text, not_mem_quote (.inl rfl) text, not_mem_quote (.inr (.inl rfl)) text⟩

/-! ## Characters that mean nothing to a scanner -/

/-- Whether a character means nothing to a scanner wherever it stands, and ends no line. -/
def isQuiet (c : Char) : Bool :=
  !isQuote c && c != '/' && c != '\x7b' && c != '\x7d' && c != '\n' && c != '\r'

/-- A segment of such characters. -/
def Quiet (segment : List Char) : Prop :=
  ∀ c ∈ segment, isQuiet c = true

theorem quiet_of_all {segment : List Char} (h : segment.all isQuiet = true) : Quiet segment :=
  List.all_eq_true.mp h

theorem Quiet.append {segment more : List Char} (h : Quiet segment) (hmore : Quiet more) :
    Quiet (segment ++ more) :=
  fun c hc => (List.mem_append.mp hc).elim (h c) (hmore c)

theorem Quiet.isPlain {segment : List Char} (h : Quiet segment) : IsPlain segment := by
  intro c hc
  have hquiet := h c hc
  simp only [isQuiet, Bool.and_eq_true, Bool.not_eq_true'] at hquiet
  exact hquiet.1.1.1.1.1

theorem Quiet.not_mem {segment : List Char} (h : Quiet segment) {c : Char}
    (hc : isQuiet c = false) : c ∉ segment := by
  intro hmem
  rw [h c hmem] at hc
  cases hc

theorem quiet_of_isWord {text : List Char} (h : isWord text = true) : Quiet text := by
  intro c hc
  have hword := (isWord_iff.mp h).2 c hc
  have hne : ∀ other, isWordChar other = false → c ≠ other :=
    fun _ hother => ne_of_isWordChar hword hother
  simp [isQuiet, isQuote, hne '\x27' (by decide), hne '\x22' (by decide), hne '/' (by decide),
    hne '\x7b' (by decide), hne '\x7d' (by decide), hne '\n' (by decide),
    hne '\r' (by decide)]

theorem Quiet.noSlashes {segment : List Char} (h : Quiet segment) : NoSlashes segment := by
  intro hslash
  exact h.not_mem (by decide) (hslash.subset List.mem_cons_self)

theorem Quiet.sealed {segment : List Char} (h : Quiet segment) : Sealed segment :=
  sealed_plain h.isPlain (h.not_mem (by decide)) (h.not_mem (by decide)) h.noSlashes

theorem Quiet.inert {segment : List Char} (h : Quiet segment) : Inert segment :=
  ⟨h.sealed, h.not_mem (by decide), h.not_mem (by decide)⟩

/-! ## Lines -/

theorem ahead_blank_cons {c : Char} (hblank : isBlank c = true) {rest : List Char}
    (hrest : (trimStart rest).head? ≠ some '\x7b') : Ahead (c :: rest) := by
  refine ⟨by simpa using isWordChar_of_isBlank hblank, ?_⟩
  rwa [trimStart, List.dropWhile_cons_of_pos hblank]

/-- A quoted text goes on an inert segment, and a bracket closes it. -/
theorem Inert.quoted {segment : List Char} (h : Inert segment) (text : List Char) :
    Inert (segment ++ quote text) :=
  h.append (inert_quote text) (by simp [quote])

theorem Inert.bracket {segment : List Char} (h : Inert segment) : Inert (segment ++ [']']) := by
  have hbracket : Quiet [']'] := quiet_of_all (by decide)
  exact h.append hbracket.inert (by decide)

theorem sealed_feed : Sealed ['\n'] := by decide

theorem Inert.sealed_line {segment : List Char} (h : Inert segment) : Sealed (segment ++ ['\n']) :=
  h.closed.append sealed_feed (by decide)

end SchemaDiagram.SchemaText
