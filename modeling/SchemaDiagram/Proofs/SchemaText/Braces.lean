import Mathlib.Order.Bounds.Image
import Mathlib.Order.Nat
import SchemaDiagram.Proofs.SchemaText.Quotation

/-!
# Matching braces

The search for the closing brace keeps a number of open braces and a scanner for quotes.  What it
finds is said here without both: by counting the braces of a text that a scanner started at the
opening brace does not find quoted.  The closing brace is the first character up to which as many of
these are closed as are opened.  While the search goes on, the number it keeps is the difference of
the two counts, and this is positive, so that no brace is ever taken off zero.
-/

namespace SchemaDiagram.SchemaText

/-! ## Counting unquoted characters -/

namespace QuoteState

/-- How often a character stands unquoted in a text that a scanner enters in this state. -/
def unquoted (state : QuoteState) (c : Char) (text : List Char) : Nat :=
  (text.zip (state.marks text)).count (c, false)

theorem unquoted_cons (state : QuoteState) (c d : Char) (text : List Char) :
    state.unquoted c (d :: text) =
      state.unquoted c [d] + (state.step d).1.unquoted c text := by
  simp only [unquoted, marks, List.zip_cons_cons, List.zip_nil_left, List.count_cons,
    List.count_nil]
  omega

/-- A quoted character counts for nothing. -/
theorem unquoted_of_quoted {state : QuoteState} {d : Char} (h : (state.step d).2 = true)
    (c : Char) : state.unquoted c [d] = 0 := by
  simp [unquoted, marks, h]

theorem unquoted_singleton {state : QuoteState} {d : Char} (h : (state.step d).2 = false)
    (c : Char) : state.unquoted c [d] = if d = c then 1 else 0 := by
  simp [unquoted, marks, h, List.count_singleton]

end QuoteState

/-! ## The search, one character at a time -/

/-- Behind a character, the search with open braces has ended at an unquoted closing brace that was
the last one open, or it goes on with open braces: with one more behind an unquoted opening brace
and with one less behind an unquoted closing one.  The same holds in front of the first brace. -/
theorem closingBraceFrom_cons_of_open (state : QuoteState) {depth : Nat} (c : Char)
    (h : 0 < depth ∨ (c = '\x7b' ∧ (state.step c).2 = false)) :
    (state.unquoted '\x7d' [c] = depth + state.unquoted '\x7b' [c] ∧
        ∀ text, closingBraceFrom state depth (c :: text) = some 0) ∨
      ∃ next, 0 < next ∧
        depth + state.unquoted '\x7b' [c] = next + state.unquoted '\x7d' [c] ∧
        ∀ text, closingBraceFrom state depth (c :: text) =
          (closingBraceFrom (state.step c).1 next text).map (· + 1) := by
  cases hquoted : (state.step c).2 with
  | true =>
      have hdepth : 0 < depth := by
        rcases h with hdepth | ⟨-, hunquoted⟩
        · exact hdepth
        · rw [hquoted] at hunquoted
          cases hunquoted
      refine .inr ⟨depth, hdepth, ?_, fun text => ?_⟩
      · rw [QuoteState.unquoted_of_quoted hquoted, QuoteState.unquoted_of_quoted hquoted]
      · simp only [closingBraceFrom, hquoted, if_true]
  | false =>
      -- Only an opening brace is read while no brace is open.
      have hcount := QuoteState.unquoted_singleton hquoted
      by_cases hopen : c = '\x7b'
      · subst hopen
        refine .inr ⟨depth + 1, Nat.succ_pos depth, ?_, fun text => ?_⟩
        · rw [hcount, hcount, if_pos rfl, if_neg (by decide)]
        · simp only [closingBraceFrom, hquoted, Bool.false_eq_true, if_false, if_true]
      have hdepth : 0 < depth := h.resolve_right fun hfirst => hopen hfirst.1
      by_cases hclose : c = '\x7d'
      · subst hclose
        by_cases hlast : depth ≤ 1
        · refine .inl ⟨?_, fun text => ?_⟩
          · rw [hcount, hcount, if_pos rfl, if_neg (by decide)]
            omega
          · simp only [closingBraceFrom, hquoted, Bool.false_eq_true, if_false, if_neg hopen,
              if_pos hlast, if_true]
        · refine .inr ⟨depth - 1, by omega, ?_, fun text => ?_⟩
          · rw [hcount, hcount, if_pos rfl, if_neg (by decide)]
            omega
          · simp only [closingBraceFrom, hquoted, Bool.false_eq_true, if_false, if_neg hopen,
              if_neg hlast, if_true]
      · refine .inr ⟨depth, hdepth, ?_, fun text => ?_⟩
        · rw [hcount, hcount, if_neg hopen, if_neg hclose]
        · simp only [closingBraceFrom, hquoted, Bool.false_eq_true, if_false, if_neg hopen,
            if_neg hclose]

/-- As long as the search has not ended, it keeps the exact number of braces that are open, and
there is at least one. -/
theorem closingBraceFrom_append_of_none {state : QuoteState} {depth : Nat} {front : List Char}
    (hdepth : 0 < depth) (h : closingBraceFrom state depth front = none) :
    ∃ next, 0 < next ∧
      depth + state.unquoted '\x7b' front = next + state.unquoted '\x7d' front ∧
      ∀ more, closingBraceFrom state depth (front ++ more) =
        (closingBraceFrom (state.run front) next more).map (front.length + ·) := by
  induction front generalizing state depth with
  | nil => exact ⟨depth, hdepth, rfl, fun more => by simp [QuoteState.run]⟩
  | cons c front ih =>
      obtain ⟨-, hend⟩ | ⟨between, hbetween, hcount, hnext⟩ :=
        closingBraceFrom_cons_of_open state c (.inl hdepth)
      · rw [hend] at h
        cases h
      · rw [hnext, Option.map_eq_none_iff] at h
        obtain ⟨next, hpositive, hrest, hmore⟩ := ih hbetween h
        refine ⟨next, hpositive, ?_, fun more => ?_⟩
        · rw [QuoteState.unquoted_cons state _ c front, QuoteState.unquoted_cons state _ c front]
          omega
        · rw [List.cons_append, hnext, hmore, Option.map_map]
          congr 1
          funext position
          simp only [Function.comp, List.length_cons]
          omega

/-! ## The first position at which all braces are closed -/

/-- Up to this position of a text that starts with some braces open, all of them are closed. -/
def IsLevel (state : QuoteState) (depth : Nat) (text : List Char) (position : Nat) : Prop :=
  position < text.length ∧ state.unquoted '\x7d' (text.take (position + 1)) =
    depth + state.unquoted '\x7b' (text.take (position + 1))

theorem isLevel_zero_iff {state : QuoteState} {depth : Nat} {c : Char} {text : List Char} :
    IsLevel state depth (c :: text) 0 ↔
      state.unquoted '\x7d' [c] = depth + state.unquoted '\x7b' [c] := by
  simp [IsLevel]

theorem isLevel_succ_iff {state : QuoteState} {depth next : Nat} {c : Char} {text : List Char}
    (h : depth + state.unquoted '\x7b' [c] = next + state.unquoted '\x7d' [c]) (position : Nat) :
    IsLevel state depth (c :: text) (position + 1) ↔
      IsLevel (state.step c).1 next text position := by
  have hcons := fun brace => QuoteState.unquoted_cons state brace c (text.take (position + 1))
  rw [IsLevel, IsLevel, List.take_succ_cons, hcons, hcons, List.length_cons]
  omega

/-- The least number with a property that numbers have which are moved up. -/
theorem isLeast_add_iff {p q : Nat → Prop} {offset : Nat}
    (h : ∀ n, p n ↔ ∃ m, q m ∧ m + offset = n) (n : Nat) :
    IsLeast {n | p n} (n + offset) ↔ IsLeast {n | q n} n := by
  have himage : {n | p n} = (· + offset) '' {n | q n} := Set.ext h
  have hstrict : StrictMono (· + offset) := fun _ _ hlt => Nat.add_lt_add_right hlt offset
  rw [himage]
  exact hstrict.map_isLeast

/-- If the search finds the first such position of a text, it does so with a character in front. -/
theorem closingBraceFrom_cons_eq_some_iff {state : QuoteState} {depth : Nat} {c : Char}
    {text : List Char}
    (h : 0 < depth ∨ (c = '\x7b' ∧ (state.step c).2 = false))
    (hmore : ∀ {next : Nat}, 0 < next → ∀ position,
      closingBraceFrom (state.step c).1 next text = some position ↔
        IsLeast {position | IsLevel (state.step c).1 next text position} position)
    (position : Nat) :
    closingBraceFrom state depth (c :: text) = some position ↔
      IsLeast {position | IsLevel state depth (c :: text) position} position := by
  obtain ⟨hlevel, hend⟩ | ⟨next, hnext, hcount, hstep⟩ := closingBraceFrom_cons_of_open state c h
  · have hzero : IsLevel state depth (c :: text) 0 := isLevel_zero_iff.mpr hlevel
    rw [hend, Option.some_inj]
    constructor
    · rintro rfl
      exact ⟨hzero, fun _ _ => Nat.zero_le _⟩
    · rintro ⟨-, hleast⟩
      exact (Nat.le_zero.mp (hleast hzero)).symm
  · have hzero : ¬IsLevel state depth (c :: text) 0 := by
      rw [isLevel_zero_iff]
      omega
    rw [hstep]
    have hmoved : ∀ position, IsLevel state depth (c :: text) position ↔
        ∃ behind, IsLevel (state.step c).1 next text behind ∧ behind + 1 = position := by
      intro position
      cases position with
      | zero => simp [hzero]
      | succ position => simp [isLevel_succ_iff hcount]
    cases position with
    | zero => simp [IsLeast, hzero]
    | succ position =>
        rw [isLeast_add_iff hmoved, ← hmore hnext]
        simp

/-- With braces open, the search returns the first position at which all of them are closed. -/
theorem closingBraceFrom_eq_some_iff {state : QuoteState} {depth : Nat} {text : List Char}
    (hdepth : 0 < depth) (position : Nat) :
    closingBraceFrom state depth text = some position ↔
      IsLeast {position | IsLevel state depth text position} position := by
  induction text generalizing state depth position with
  | nil => simp [closingBraceFrom, IsLevel, IsLeast]
  | cons c text ih =>
      exact closingBraceFrom_cons_eq_some_iff (.inl hdepth) (fun hnext => ih hnext) position

/-! ## The brace that closes another one in a text -/

/-- The position in a text of the brace that closes the one at another position. -/
def closingBraceAt? (text : List Char) (start : Nat) : Option Nat :=
  (closingBrace? (text.drop start)).map (· + start)

theorem closingBraceAt?_append (front text : List Char) :
    closingBraceAt? (front ++ text) front.length = (closingBrace? text).map (· + front.length) := by
  rw [closingBraceAt?, List.drop_left]

/-- From one position of a text through another one, as many braces are closed as are opened, where
those do not count that a scanner started at the first position finds quoted. -/
def IsMatched (text : List Char) (start stop : Nat) : Prop :=
  start ≤ stop ∧ stop < text.length ∧
    QuoteState.outside.unquoted '\x7d' (text.extract start (stop + 1)) =
      QuoteState.outside.unquoted '\x7b' (text.extract start (stop + 1))

theorem isMatched_iff {text : List Char} {start stop : Nat} :
    IsMatched text start stop ↔
      ∃ position, IsLevel .outside 0 (text.drop start) position ∧ position + start = stop := by
  have hextract : ∀ position, text.extract start (position + start + 1) =
      (text.drop start).take (position + 1) := by
    intro position
    rw [List.extract_eq_take_drop]
    congr 1
    omega
  constructor
  · rintro ⟨hle, hlength, hcount⟩
    obtain ⟨position, rfl⟩ := Nat.exists_eq_add_of_le' hle
    rw [hextract] at hcount
    refine ⟨position, ⟨by rw [List.length_drop]; omega, ?_⟩, rfl⟩
    rw [hcount, Nat.zero_add]
  · rintro ⟨position, ⟨hlength, hcount⟩, rfl⟩
    rw [List.length_drop] at hlength
    refine ⟨Nat.le_add_left start position, by omega, ?_⟩
    rw [hextract, hcount, Nat.zero_add]

/-- The brace that closes an opening brace is the first character up to which all braces are closed
that are opened from there on. -/
theorem closingBraceAt?_eq_some_iff {text : List Char} {start : Nat}
    (h : text[start]? = some '\x7b') (stop : Nat) :
    closingBraceAt? text start = some stop ↔ IsLeast {stop | IsMatched text start stop} stop := by
  obtain ⟨hlength, hbrace⟩ := List.getElem?_eq_some_iff.mp h
  have hdrop : text.drop start = '\x7b' :: text.drop (start + 1) := by
    rw [List.drop_eq_getElem_cons hlength, hbrace]
  have hlevel : ∀ position, closingBrace? (text.drop start) = some position ↔
      IsLeast {position | IsLevel .outside 0 (text.drop start) position} position := by
    rw [hdrop]
    exact closingBraceFrom_cons_eq_some_iff (.inr ⟨rfl, rfl⟩)
      fun hnext => closingBraceFrom_eq_some_iff hnext
  constructor
  · intro hsome
    obtain ⟨position, hposition, rfl⟩ := Option.map_eq_some_iff.mp hsome
    exact (isLeast_add_iff (fun _ => isMatched_iff) position).mpr ((hlevel position).mp hposition)
  · intro hleast
    obtain ⟨position, -, rfl⟩ := isMatched_iff.mp hleast.1
    have hposition := (hlevel position).mpr
      ((isLeast_add_iff (fun _ => isMatched_iff) position).mp hleast)
    exact Option.map_eq_some_iff.mpr ⟨position, hposition, rfl⟩

/-- An unquoted closing brace is found. -/
theorem getElem?_of_closingBraceAt? {text : List Char} {start stop : Nat}
    (h : closingBraceAt? text start = some stop) :
    text[stop]? = some '\x7d' ∧
      (QuoteState.outside.marks (text.drop start))[stop - start]? = some false := by
  obtain ⟨position, hposition, rfl⟩ := Option.map_eq_some_iff.mp h
  obtain ⟨inner, rest, hdrop, rfl, hrun, -⟩ := closingBraceFrom_eq_some hposition
  have hlength := QuoteState.length_marks .outside inner
  constructor
  · rw [Nat.add_comm, ← List.getElem?_drop, hdrop, List.getElem?_append_right (le_refl _),
      Nat.sub_self, List.getElem?_cons_zero]
  · rw [Nat.add_sub_cancel, hdrop, QuoteState.marks_append, hrun,
      List.getElem?_append_right (by rw [hlength]), hlength, Nat.sub_self]
    rfl

/-- Behind an opening brace the search goes on with the number of braces that are open. -/
theorem closingBrace?_append_of_none {front : List Char}
    (h : closingBrace? ('\x7b' :: front) = none) :
    ∃ depth, 0 < depth ∧
      QuoteState.outside.unquoted '\x7b' ('\x7b' :: front) =
        depth + QuoteState.outside.unquoted '\x7d' ('\x7b' :: front) ∧
      ∀ more, closingBrace? ('\x7b' :: front ++ more) =
        (closingBraceFrom (QuoteState.outside.run ('\x7b' :: front)) depth more).map
          (('\x7b' :: front).length + ·) := by
  have hopen : ∀ text, closingBrace? ('\x7b' :: text) =
      (closingBraceFrom .outside 1 text).map (· + 1) := fun _ => rfl
  have hcons := fun brace => QuoteState.unquoted_cons .outside brace '\x7b' front
  have hcounts : QuoteState.outside.unquoted '\x7b' ['\x7b'] = 1 ∧
    QuoteState.outside.unquoted '\x7d' ['\x7b'] = 0 := by decide
  have hstep : (QuoteState.outside.step '\x7b').1 = .outside := rfl
  rw [hopen, Option.map_eq_none_iff] at h
  obtain ⟨depth, hdepth, hcount, hmore⟩ := closingBraceFrom_append_of_none Nat.one_pos h
  refine ⟨depth, hdepth, ?_, fun more => ?_⟩
  · rw [hcons, hcons, hcounts.1, hcounts.2, hstep]
    omega
  · rw [List.cons_append, hopen, hmore, Option.map_map]
    congr 1
    funext position
    simp only [Function.comp, List.length_cons]
    omega

/-- The search returns the first position up to which all braces are closed that are opened from the
starting brace on, and nothing exactly if there is none.  At that position stands an unquoted
closing brace.  Behind any part of the text in which it has not ended, the search goes on with the
number of braces that are open there, and this is positive: it never takes a brace off zero. -/
theorem closingBraceAt?_matches (text : List Char) (start : Nat)
    (h : text[start]? = some '\x7b') :
    (∀ stop, closingBraceAt? text start = some stop ↔
      IsLeast {stop | IsMatched text start stop} stop) ∧
    (closingBraceAt? text start = none ↔ ∀ stop, ¬IsMatched text start stop) ∧
    (∀ stop, closingBraceAt? text start = some stop → text[stop]? = some '\x7d' ∧
      (QuoteState.outside.marks (text.drop start))[stop - start]? = some false) ∧
    ∀ front, front <+: text.drop start → front ≠ [] → closingBrace? front = none →
      ∃ depth, 0 < depth ∧
        QuoteState.outside.unquoted '\x7b' front =
          depth + QuoteState.outside.unquoted '\x7d' front ∧
        ∀ more, closingBrace? (front ++ more) =
          (closingBraceFrom (QuoteState.outside.run front) depth more).map (front.length + ·) := by
  have hiff := closingBraceAt?_eq_some_iff h
  refine ⟨hiff, ?_, fun stop => getElem?_of_closingBraceAt?, fun front hfront hnonempty hnone => ?_⟩
  · constructor
    · intro hnone stop hmatched
      classical
      have hleast := Nat.isLeast_find ⟨stop, hmatched⟩
      rw [(hiff _).mpr hleast] at hnone
      cases hnone
    · intro hnever
      by_contra hsome
      obtain ⟨stop, hstop⟩ := Option.ne_none_iff_exists'.mp hsome
      exact hnever stop ((hiff stop).mp hstop).1
  · obtain ⟨c, front, rfl⟩ := List.exists_cons_of_ne_nil hnonempty
    obtain ⟨behind, hdrop⟩ := hfront
    have hhead : (text.drop start)[0]? = some '\x7b' := by rw [List.getElem?_drop]; exact h
    rw [← hdrop, List.cons_append, List.getElem?_cons_zero, Option.some_inj] at hhead
    subst hhead
    exact closingBrace?_append_of_none hnone

/-- A table with two closing braces in strings, one behind an escaped quote, the other in a string
that is not closed on its line. -/
def quotedBraces : List Char :=
  "Table a \x7b\n\tid int [note: '\\' \x7d b']\n\tx it's \x7d\n\tIndexes \x7b\n\t\x7d\n\x7d".toList

theorem closingBraceAt?_matches_quotedBraces :
    quotedBraces[8]? = some '\x7b' ∧ closingBraceAt? quotedBraces 8 = some 59 ∧
      IsLeast {stop | IsMatched quotedBraces 8 stop} 59 := by
  have hbrace : quotedBraces[8]? = some '\x7b' := by decide
  have hsome : closingBraceAt? quotedBraces 8 = some 59 := by decide +kernel
  exact ⟨hbrace, hsome, ((closingBraceAt?_matches quotedBraces 8 hbrace).1 59).mp hsome⟩

end SchemaDiagram.SchemaText
