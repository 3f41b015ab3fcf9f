import SchemaDiagram.Proofs.SchemaText.Cut

/-!
# Blocks from head to head

The blocks of a text can be found in rounds.  Each round looks for the next head of a table and goes
on behind the block if the brace of the head is closed, and behind its opening brace if not; a head
that is not closed may have complete blocks behind it.  Since no head starts within another one, the
rounds come to an end with the blocks at which the text is cut.
-/

namespace SchemaDiagram.SchemaText

open SchemaDiagram.Text

/-! ## Rounds -/

/-- A head at a position of a text, in front of which there is none. -/
def IsFirstHead (text name : List Char) (start brace : Nat) : Prop :=
  headAt? text start = some (name, brace) ∧ ∀ earlier < start, headAt? text earlier = none

/-- From a position of a text on, blocks are found by a loop.  In each round the rest of the text is
searched for its first head.  If the brace of this head is closed, the loop goes on behind the
closing brace, and otherwise behind the opening one.  It ends where no head is left. -/
inductive Scans (text : List Char) : Nat → List PlacedBlock → Prop
  | done {position : Nat} (hposition : position ≤ text.length)
      (hnone : ∀ start, headAt? (text.drop position) start = none) : Scans text position []
  | closed {position start brace close : Nat} {name : List Char} {more : List PlacedBlock}
      (hposition : position ≤ text.length)
      (hhead : IsFirstHead (text.drop position) name start brace)
      (hclose : closingBraceAt? text (position + brace) = some close)
      (hmore : Scans text (close + 1) more) :
      Scans text position
        (⟨name, position + start, position + brace + 1, close, close + 1⟩ :: more)
  | unclosed {position start brace : Nat} {name : List Char} {more : List PlacedBlock}
      (hposition : position ≤ text.length)
      (hhead : IsFirstHead (text.drop position) name start brace)
      (hnone : closingBraceAt? text (position + brace) = none)
      (hmore : Scans text (position + brace + 1) more) : Scans text position more

/-- There is one first head at most. -/
theorem IsFirstHead.unique {text name other : List Char} {start brace first second : Nat}
    (h : IsFirstHead text name start brace) (hother : IsFirstHead text other first second) :
    name = other ∧ start = first ∧ brace = second := by
  obtain ⟨hhead, hbefore⟩ := h
  obtain ⟨hfirst, hnone⟩ := hother
  obtain hlt | rfl | hlt := lt_trichotomy start first
  · rw [hnone start hlt] at hhead
    cases hhead
  · rw [hfirst, Option.some_inj, Prod.mk.injEq] at hhead
    exact ⟨hhead.1.symm, rfl, hhead.2.symm⟩
  · rw [hbefore first hlt] at hfirst
    cases hfirst

/-- The loop has one outcome at most. -/
theorem Scans.unique {text : List Char} {position : Nat} {found other : List PlacedBlock}
    (h : Scans text position found) (hother : Scans text position other) : found = other := by
  induction h generalizing other with
  | done _ hnone =>
      cases hother with
      | done => rfl
      | closed _ hhead => cases (hnone _).symm.trans hhead.1
      | unclosed _ hhead => cases (hnone _).symm.trans hhead.1
  | closed _ hhead hclose _ ih =>
      cases hother with
      | done _ hnone => cases (hnone _).symm.trans hhead.1
      | closed _ hfirst hend hmore =>
          obtain ⟨rfl, rfl, rfl⟩ := hhead.unique hfirst
          obtain rfl := Option.some.inj (hclose.symm.trans hend)
          rw [ih hmore]
      | unclosed _ hfirst hend =>
          obtain ⟨rfl, rfl, rfl⟩ := hhead.unique hfirst
          cases hclose.symm.trans hend
  | unclosed _ hhead hnone _ ih =>
      cases hother with
      | done _ hlast => cases (hlast _).symm.trans hhead.1
      | closed _ hfirst hend =>
          obtain ⟨rfl, rfl, rfl⟩ := hhead.unique hfirst
          cases hnone.symm.trans hend
      | unclosed _ hfirst _ hmore =>
          obtain ⟨rfl, rfl, rfl⟩ := hhead.unique hfirst
          exact ih hmore

/-- No block starts in a segment in which no head starts. -/
theorem skips_of_headless {segment text : List Char} {previous : Option Char}
    (h : ∀ start < segment.length, headAt? (segment ++ text) start = none) :
    Occurrences.Skips takeBlock? text previous segment := by
  refine Occurrences.skips_of_split fun front c behind hsplit => ?_
  rw [← Option.not_isSome_iff_eq_none, Option.isSome_iff_exists]
  rintro ⟨⟨block, rest⟩, htake⟩
  obtain ⟨hboundary, hcomplete, htext⟩ := takeBlock?_eq_some_iff.mp htake
  obtain ⟨head, hhead, hblock⟩ := hcomplete.exists_head
  have hlast : isBoundary front.getLast? = true := by
    rw [Occurrences.lastOf] at hboundary
    cases hfront : front.getLast? with
    | none => rfl
    | some d => simpa [hfront] using hboundary
  have hwhole : segment ++ text =
      front ++ (head ++ '\x7b' :: (block.body ++ '\x7d' :: rest)) := by
    rw [hsplit, List.append_assoc, htext, hblock]
    simp
  have hlength : front.length < segment.length := by
    rw [hsplit, List.length_append, List.length_cons]
    omega
  have hsome := headAt?_eq_some_iff.mpr ⟨front, head, _, hlast, hhead, hwhole, rfl, rfl⟩
  rw [h _ hlength] at hsome
  cases hsome

/-- At a head whose brace is not closed, the search goes on behind this brace. -/
theorem find_of_unclosed {name head skipped behind : List Char} {previous : Option Char}
    (hskips : Occurrences.Skips takeBlock? (head ++ '\x7b' :: behind) previous skipped)
    (hhead : IsHead name head) (hnone : closingBrace? ('\x7b' :: behind) = none) :
    Occurrences.find takeBlock? previous (skipped ++ (head ++ '\x7b' :: behind)) =
      Occurrences.behind (skipped ++ (head ++ ['\x7b']))
        (Occurrences.find takeBlock? (some '\x7b') behind) := by
  have hmore := hhead.skips
    (hhead.takeBlock?_of_unclosed hnone (Occurrences.lastOf previous skipped))
  have hsplit : head ++ '\x7b' :: behind = (head ++ ['\x7b']) ++ behind := by simp
  rw [hsplit] at hskips ⊢
  have hlast : Occurrences.lastOf previous (skipped ++ (head ++ ['\x7b'])) = some '\x7b' := by
    rw [← List.append_assoc, Occurrences.lastOf, List.getLast?_concat, Option.some_or]
  rw [← List.append_assoc, Occurrences.find_append_of_skips (Occurrences.skips_append hskips hmore),
    hlast]

/-- At a head whose brace is closed, a block is found, and the search goes on behind it. -/
theorem find_of_closed {name head skipped body rest : List Char} {previous : Option Char}
    (hskips : Occurrences.Skips takeBlock? (head ++ '\x7b' :: (body ++ '\x7d' :: rest)) previous
      skipped)
    (hprevious : isBoundary (Occurrences.lastOf previous skipped) = true) (hhead : IsHead name head)
    (hclosed : closingBrace? ('\x7b' :: (body ++ '\x7d' :: rest)) = some (body.length + 1)) :
    Occurrences.find takeBlock? previous (skipped ++ (head ++ '\x7b' :: (body ++ '\x7d' :: rest))) =
      Occurrences.behind skipped
        (Occurrences.item ⟨name, body, head ++ '\x7b' :: (body ++ ['\x7d'])⟩
          (Occurrences.find takeBlock? (some '\x7d') rest)) := by
  have htake := hhead.takeBlock?_of_closed hprevious hclosed
  have hsplit : head ++ '\x7b' :: (body ++ '\x7d' :: rest) =
      (head ++ '\x7b' :: (body ++ ['\x7d'])) ++ rest := by simp
  have hlast : ∀ last, Occurrences.lastOf last (head ++ '\x7b' :: (body ++ ['\x7d'])) =
      some '\x7d' := by
    intro last
    rw [← List.cons_append, ← List.append_assoc, Occurrences.lastOf, List.getLast?_concat,
      Option.some_or]
  rw [Occurrences.find_append_of_skips hskips]
  rw [hsplit] at htake ⊢
  rw [Occurrences.find_append_of_some (by simp) htake, hlast]

theorem exists_isFirstHead {text : List Char} {start : Nat} (h : headAt? text start ≠ none) :
    ∃ name start brace, IsFirstHead text name start brace := by
  classical
  have hexists : ∃ start, headAt? text start ≠ none := ⟨start, h⟩
  obtain ⟨⟨name, brace⟩, hhead⟩ := Option.ne_none_iff_exists'.mp (Nat.find_spec hexists)
  exact ⟨name, _, brace, hhead, fun earlier hlt => not_not.mp (Nat.find_min hexists hlt)⟩

theorem isBoundary_lastOf {previous : Option Char} {front : List Char}
    (hprevious : isBoundary previous = true) (hfront : isBoundary front.getLast? = true) :
    isBoundary (Occurrences.lastOf previous front) = true := by
  rw [Occurrences.lastOf]
  cases hlast : front.getLast? with
  | none => exact hprevious
  | some c => rwa [hlast] at hfront

section

variable {front skipped head name : List Char}

/-- One round at a head whose brace is not closed. -/
theorem Scans.round_of_unclosed {behind : List Char} {found : List PlacedBlock}
    (hfirst : IsFirstHead (skipped ++ (head ++ '\x7b' :: behind)) name skipped.length
      (skipped.length + head.length))
    (hnone : closingBrace? ('\x7b' :: behind) = none)
    (hmore : Scans (front ++ (skipped ++ (head ++ '\x7b' :: behind)))
      (front.length + (skipped ++ (head ++ ['\x7b'])).length) found) :
    Scans (front ++ (skipped ++ (head ++ '\x7b' :: behind))) front.length found := by
  have hbrace := closingBraceAt?_append (front ++ (skipped ++ head)) ('\x7b' :: behind)
  rw [hnone, Option.map_none, List.append_assoc, List.append_assoc, List.length_append,
    List.length_append] at hbrace
  refine .unclosed (by simp) (by rwa [List.drop_left]) hbrace ?_
  simpa [Nat.add_assoc] using hmore

/-- One round at a head whose brace is closed. -/
theorem Scans.round_of_closed {body rest : List Char} {found : List PlacedBlock}
    (hfirst : IsFirstHead (skipped ++ (head ++ '\x7b' :: (body ++ '\x7d' :: rest))) name
      skipped.length (skipped.length + head.length))
    (hclosed : closingBrace? ('\x7b' :: (body ++ '\x7d' :: rest)) = some (body.length + 1))
    (hmore : Scans (front ++ (skipped ++ (head ++ '\x7b' :: (body ++ '\x7d' :: rest))))
      (front.length + skipped.length + (head ++ '\x7b' :: (body ++ ['\x7d'])).length) found) :
    Scans (front ++ (skipped ++ (head ++ '\x7b' :: (body ++ '\x7d' :: rest)))) front.length
      (Block.placedAt ⟨name, body, head ++ '\x7b' :: (body ++ ['\x7d'])⟩
        (front.length + skipped.length) :: found) := by
  have hbrace := closingBraceAt?_append (front ++ (skipped ++ head))
    ('\x7b' :: (body ++ '\x7d' :: rest))
  rw [hclosed, Option.map_some, List.append_assoc, List.append_assoc, List.length_append,
    List.length_append] at hbrace
  have hlength : (head ++ '\x7b' :: (body ++ ['\x7d'])).length =
      head.length + body.length + 2 := by
    simp only [List.length_append, List.length_cons, List.length_nil]
    omega
  have hplace : Block.placedAt ⟨name, body, head ++ '\x7b' :: (body ++ ['\x7d'])⟩
      (front.length + skipped.length) =
        ⟨name, front.length + skipped.length, front.length + (skipped.length + head.length) + 1,
          body.length + 1 + (front.length + (skipped.length + head.length)),
          body.length + 1 + (front.length + (skipped.length + head.length)) + 1⟩ := by
    simp only [Block.placedAt, hlength, PlacedBlock.mk.injEq, true_and]
    omega
  have hnext : front.length + skipped.length + (head ++ '\x7b' :: (body ++ ['\x7d'])).length =
      body.length + 1 + (front.length + (skipped.length + head.length)) + 1 := by
    rw [hlength]
    omega
  rw [hnext] at hmore
  rw [hplace]
  exact .closed (by simp) (by rwa [List.drop_left]) hbrace hmore

end

/-- The loop finds the blocks at which the rest of a text is cut. -/
theorem scans_placesFrom (front rest : List Char) {previous : Option Char}
    (hprevious : isBoundary previous = true) :
    Scans (front ++ rest) front.length
      (placesFrom front.length (Occurrences.find takeBlock? previous rest).found) := by
  induction hlength : rest.length using Nat.strong_induction_on
    generalizing front rest previous with
  | h length ih =>
      subst hlength
      by_cases hnone : ∀ start, headAt? rest start = none
      · have hskips : Occurrences.Skips takeBlock? [] previous rest :=
          skips_of_headless fun start _ => by rw [List.append_nil]; exact hnone start
        have hfind := Occurrences.find_append_of_skips hskips
        rw [List.append_nil, Occurrences.find_nil, Occurrences.behind_tail] at hfind
        rw [hfind]
        exact .done (by simp) (by rwa [List.drop_left])
      obtain ⟨earliest, hearliest⟩ := not_forall.mp hnone
      obtain ⟨name, start, brace, hfirst⟩ := exists_isFirstHead hearliest
      obtain ⟨skipped, head, behind, hboundary, hhead, rfl, rfl, rfl⟩ :=
        headAt?_eq_some_iff.mp hfirst.1
      have hskips : Occurrences.Skips takeBlock? (head ++ '\x7b' :: behind) previous skipped :=
        skips_of_headless hfirst.2
      cases hclose : closingBrace? ('\x7b' :: behind) with
      | none =>
          have hbehind : isBoundary (some '\x7b') = true := by decide
          have hmore := ih behind.length (by simp; omega) (front ++ (skipped ++ (head ++ ['\x7b'])))
            behind hbehind rfl
          rw [find_of_unclosed hskips hhead hclose, placesFrom_behind]
          refine .round_of_unclosed hfirst hclose ?_
          simpa using hmore
      | some close =>
          obtain ⟨body, after, rfl, rfl⟩ := exists_body_of_closingBrace? hclose
          have hafter : isBoundary (some '\x7d') = true := by decide
          have hmore := ih after.length (by simp; omega)
            (front ++ (skipped ++ (head ++ '\x7b' :: (body ++ ['\x7d'])))) after hafter rfl
          rw [find_of_closed hskips (isBoundary_lastOf hprevious hboundary) hhead hclose,
            placesFrom_behind, placesFrom_item]
          refine .round_of_closed hfirst hclose ?_
          simpa [Nat.add_assoc] using hmore

/-! ## The cut is well formed -/

/-- The loop over the heads ends for every text, with the blocks at which the text is cut.  Each of
them is found at its place with its body strictly inside, and the next one starts where it stops or
later; so the positions between blocks never reach out of the text, and what stands between them are
the pieces that are searched for relationships.  Blocks and pieces together are the text.  A head
that stands in no block has no closing brace. -/
theorem placedBlocks_wellFormed (text : List Char) :
    (∀ found, Scans text 0 found ↔ found = placedBlocks text) ∧
    List.Forall₂ (PlacedBlock.Holds text) (placedBlocks text) (blocks text).items ∧
    (placedBlocks text).Pairwise (fun first second => first.stop ≤ second.start) ∧
    piecesBetween? text 0 (placedBlocks text) = some (blocks text).pieces ∧
    wholeText (blocks text) = text ∧
    ∀ start name brace, headAt? text start = some (name, brace) →
      (∀ place ∈ placedBlocks text, ¬(place.start ≤ start ∧ brace < place.stop)) →
      closingBraceAt? text brace = none := by
  have hstart : isBoundary none = true := rfl
  have hscans : Scans text 0 (placedBlocks text) := scans_placesFrom [] text hstart
  have hpieces := piecesBetween?_placesFrom (blocks text).found (blocks text).tail []
  have hwhole : wholeText ⟨(blocks text).found, (blocks text).tail⟩ = text := wholeText_blocks text
  rw [hwhole] at hpieces
  refine ⟨fun found => ⟨fun hfound => hfound.unique hscans, fun hfound => hfound ▸ hscans⟩,
    forall₂_placedBlocks text, pairwise_placesFrom _ 0, hpieces, wholeText_blocks text, ?_⟩
  exact fun start name brace => closingBraceAt?_of_uncovered

/-- A table that is still being typed, with a table in its body. -/
def nestedTables : List Char :=
  "Table a \x7b\n\tTable b \x7b\n\t\tid int\n\t\x7d\nRel fk: N b.id, 1 b.id".toList

/-- The inner table is a block, and the outer one has no closing brace. -/
theorem placedBlocks_wellFormed_nestedTables :
    Scans nestedTables 0 [⟨['b'], 11, 20, 31, 32⟩] ∧ headAt? nestedTables 0 = some (['a'], 8) ∧
      closingBraceAt? nestedTables 8 = none := by
  have hplaces : placedBlocks nestedTables = [⟨['b'], 11, 20, 31, 32⟩] := by decide +kernel
  have hhead : headAt? nestedTables 0 = some (['a'], 8) := by decide +kernel
  obtain ⟨hscans, -, -, -, -, hunclosed⟩ := placedBlocks_wellFormed nestedTables
  refine ⟨(hscans _).mpr hplaces.symm, hhead, hunclosed 0 ['a'] 8 hhead fun place hplace => ?_⟩
  rw [hplaces, List.mem_singleton] at hplace
  subst hplace
  decide

end SchemaDiagram.SchemaText
