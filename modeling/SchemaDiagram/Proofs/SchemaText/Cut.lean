import SchemaDiagram.Proofs.Keyed
import SchemaDiagram.Proofs.SchemaText.Heads

/-!
# The cut of a text at its blocks

Where blocks stand in a text is said with positions, counted in characters.  Blocks follow one
another without overlap, and with the pieces between them they make up the text, so that whoever
takes the blocks, their bodies and the pieces out of the text by their positions never reaches out
of it.  A head that stands in no block has no closing brace.
-/

namespace SchemaDiagram.SchemaText

open SchemaDiagram.Text

/-! ## Positions -/

/-- The name of a table block and where the block stands in a text: it runs from `start` up to
`stop`, and its body from `bodyStart` up to `bodyStop`. -/
structure PlacedBlock where
  name : List Char
  start : Nat
  bodyStart : Nat
  bodyStop : Nat
  stop : Nat
  deriving DecidableEq, Repr

/-- A block that starts at a position. -/
def Block.placedAt (block : Block) (start : Nat) : PlacedBlock where
  name := block.name
  start := start
  bodyStart := start + block.text.length - 1 - block.body.length
  bodyStop := start + block.text.length - 1
  stop := start + block.text.length

/-- The blocks that are found behind a position, each with a piece of text in front of it. -/
def placesFrom (position : Nat) : List (List Char × Block) → List PlacedBlock
  | [] => []
  | (piece, block) :: more =>
    block.placedAt (position + piece.length) ::
      placesFrom (position + piece.length + block.text.length) more

/-- The blocks at which a text is cut, and where they stand in it. -/
def placedBlocks (text : List Char) : List PlacedBlock :=
  placesFrom 0 (blocks text).found

/-- Plain text in front moves the blocks behind it. -/
theorem placesFrom_behind (position : Nat) (before : List Char) (cut : Occurrences Block) :
    placesFrom position (Occurrences.behind before cut).found =
      placesFrom (position + before.length) cut.found := by
  obtain ⟨found, tail⟩ := cut
  cases found with
  | nil => rw [Occurrences.behind_tail]; rfl
  | cons entry found =>
      obtain ⟨piece, block⟩ := entry
      rw [Occurrences.behind_found, placesFrom, placesFrom, List.length_append, ← Nat.add_assoc]

theorem placesFrom_item (position : Nat) (block : Block) (cut : Occurrences Block) :
    placesFrom position (Occurrences.item block cut).found =
      block.placedAt position :: placesFrom (position + block.text.length) cut.found := rfl

/-- The characters of a text from one position up to another one; nothing if the positions are out
of order or out of the text. -/
def slice? (text : List Char) (start stop : Nat) : Option (List Char) :=
  if start ≤ stop ∧ stop ≤ text.length then some (text.extract start stop) else none

theorem slice?_append (front middle behind : List Char) :
    slice? (front ++ (middle ++ behind)) front.length (front.length + middle.length) =
      some middle := by
  have hinside : front.length + middle.length ≤ (front ++ (middle ++ behind)).length := by
    simp only [List.length_append]
    omega
  rw [slice?, if_pos ⟨Nat.le_add_right _ _, hinside⟩, List.extract_eq_take_drop, List.drop_left,
    Nat.add_sub_cancel_left, List.take_left]

/-- The pieces of a text behind a position that are left between blocks, taken out by the positions
of these. -/
def piecesBetween? (text : List Char) (position : Nat) :
    List PlacedBlock → Option (List (List Char))
  | [] => do
    let tail ← slice? text position text.length
    return [tail]
  | place :: more => do
    let piece ← slice? text position place.start
    let pieces ← piecesBetween? text place.stop more
    return piece :: pieces

/-! ## Pieces and blocks -/

/-- The pieces and the blocks of a cut one after another. -/
def wholeText (cut : Occurrences Block) : List Char :=
  cut.found.flatMap (fun entry => entry.1 ++ entry.2.text) ++ cut.tail

theorem Occurrences.joined_eq {α : Type} (tail : List Char)
    (found : List (List Char × Spanned α)) :
    joined tail found = found.flatMap (fun entry => entry.1 ++ entry.2.text) ++ tail := by
  induction found with
  | nil => rfl
  | cons entry found ih => simp [joined, ih]

theorem isComplete_of_mem_blocks (text : List Char) :
    ∀ entry ∈ (blocks text).found, entry.2.IsComplete := by
  rw [found_blocks, List.forall_mem_map]
  exact fun entry hentry => (isComplete_spannedBlocks text entry hentry).1

theorem wholeText_blocks (text : List Char) : wholeText (blocks text) = text := by
  have htail : (blocks text).tail = (spannedBlocks text).tail :=
    congrArg Occurrences.tail (map_spannedBlocks text).symm
  have hspanned := text_spannedBlocks text
  rw [Occurrences.text, Occurrences.joined_eq] at hspanned
  rw [wholeText, found_blocks, htail, List.flatMap_map]
  refine Eq.trans (congrArg (· ++ _) (List.flatMap_congr fun entry hentry => ?_)) hspanned
  rw [(isComplete_spannedBlocks text entry hentry).2]
  rfl

/-! ## Blocks at their places -/

/-- A text holds a block at its place: the block and its body are found there, and the body stands
strictly inside the block, with the closing brace behind it. -/
structure PlacedBlock.Holds (whole : List Char) (place : PlacedBlock) (block : Block) : Prop where
  name : place.name = block.name
  text : slice? whole place.start place.stop = some block.text
  body : slice? whole place.bodyStart place.bodyStop = some block.body
  inside : place.start < place.bodyStart ∧ place.bodyStart ≤ place.bodyStop ∧
    place.bodyStop < place.stop ∧ place.stop ≤ whole.length
  closing : whole[place.bodyStop]? = some '\x7d' ∧ place.stop = place.bodyStop + 1

theorem Block.IsComplete.holds {block : Block} (h : block.IsComplete) (front rest : List Char) :
    (block.placedAt front.length).Holds (front ++ (block.text ++ rest)) block := by
  obtain ⟨head, -, htext⟩ := h.exists_head
  have hlength : block.text.length = head.length + 1 + block.body.length + 1 := by
    rw [htext]
    simp only [List.length_append, List.length_cons, List.length_nil]
    omega
  have hbody := slice?_append (front ++ (head ++ ['\x7b'])) block.body ('\x7d' :: rest)
  have hsplit : front ++ (block.text ++ rest) =
      (front ++ (head ++ ['\x7b'])) ++ (block.body ++ '\x7d' :: rest) := by simp [htext]
  have hstart : (front ++ (head ++ ['\x7b'])).length =
      front.length + block.text.length - 1 - block.body.length := by
    simp only [List.length_append, List.length_cons, List.length_nil]
    omega
  have hstop : (front ++ (head ++ ['\x7b'])).length + block.body.length =
      front.length + block.text.length - 1 := by omega
  rw [hstop, hstart, ← hsplit] at hbody
  have hinside : front.length + block.text.length ≤ (front ++ (block.text ++ rest)).length := by
    simp only [List.length_append]
    omega
  have hclosing : (front ++ (block.text ++ rest))[front.length + block.text.length - 1]? =
      some '\x7d' := by
    rw [hsplit, ← hstop, ← List.append_assoc, ← List.length_append,
      List.getElem?_append_right (le_refl _), Nat.sub_self, List.getElem?_cons_zero]
  refine ⟨rfl, slice?_append front block.text rest, hbody, ?_, hclosing, ?_⟩
  · simp only [Block.placedAt]
    omega
  · simp only [Block.placedAt]
    omega

/-- Every block of a cut is found at its place. -/
theorem forall₂_placesFrom {found : List (List Char × Block)}
    (h : ∀ entry ∈ found, entry.2.IsComplete) (tail front : List Char) :
    List.Forall₂ (PlacedBlock.Holds (front ++ wholeText ⟨found, tail⟩))
      (placesFrom front.length found) (found.map Prod.snd) := by
  induction found generalizing front with
  | nil => exact .nil
  | cons entry found ih =>
      obtain ⟨piece, block⟩ := entry
      obtain ⟨hblock, hmore⟩ := List.forall_mem_cons.mp h
      have hfirst := hblock.holds (front ++ piece) (wholeText ⟨found, tail⟩)
      have hrest := ih hmore (front ++ piece ++ block.text)
      have hsplit : front ++ wholeText ⟨(piece, block) :: found, tail⟩ =
          (front ++ piece) ++ (block.text ++ wholeText ⟨found, tail⟩) := by simp [wholeText]
      rw [hsplit, placesFrom, List.map_cons]
      rw [List.append_assoc (front ++ piece), List.length_append, List.length_append] at hrest
      rw [List.length_append] at hfirst
      exact .cons hfirst hrest

/-- The pieces of a cut are what the positions of its blocks leave. -/
theorem piecesBetween?_placesFrom (found : List (List Char × Block)) (tail front : List Char) :
    piecesBetween? (front ++ wholeText ⟨found, tail⟩) front.length
      (placesFrom front.length found) = some (Occurrences.pieces ⟨found, tail⟩) := by
  induction found generalizing front with
  | nil =>
      have htail := slice?_append front tail []
      rw [List.append_nil, ← List.length_append] at htail
      have hwhole : wholeText ⟨[], tail⟩ = tail := rfl
      simp only [placesFrom, piecesBetween?, hwhole, htail]
      rfl
  | cons entry found ih =>
      obtain ⟨piece, block⟩ := entry
      have hpiece := slice?_append front piece (block.text ++ wholeText ⟨found, tail⟩)
      have hrest := ih (front ++ piece ++ block.text)
      have hsplit : front ++ wholeText ⟨(piece, block) :: found, tail⟩ =
          front ++ (piece ++ (block.text ++ wholeText ⟨found, tail⟩)) := by simp [wholeText]
      rw [List.append_assoc, List.append_assoc, List.length_append, List.length_append] at hrest
      rw [hsplit, placesFrom, piecesBetween?]
      simp only [Block.placedAt, hpiece, hrest]
      rfl

theorem le_start_of_mem_placesFrom {found : List (List Char × Block)} {position : Nat} :
    ∀ place ∈ placesFrom position found, position ≤ place.start := by
  induction found generalizing position with
  | nil => exact fun _ hplace => absurd hplace List.not_mem_nil
  | cons entry found ih =>
      rw [placesFrom, List.forall_mem_cons]
      refine ⟨Nat.le_add_right _ _, fun place hplace => ?_⟩
      have hle := ih place hplace
      omega

/-- Blocks do not overlap. -/
theorem pairwise_placesFrom (found : List (List Char × Block)) (position : Nat) :
    (placesFrom position found).Pairwise fun first second => first.stop ≤ second.start := by
  induction found generalizing position with
  | nil => exact .nil
  | cons entry found ih =>
      exact List.pairwise_cons.mpr ⟨le_start_of_mem_placesFrom, ih _⟩

/-! ## Heads out of blocks -/

/-- What holds of the blocks that are found in a text follows from two cases: a character at which
no block is taken, and a complete block, each in front of a shorter text. -/
theorem find_takeBlock?_induct
    {motive : Option Char → List Char → Occurrences Block → Prop}
    (nil : ∀ previous, motive previous [] ⟨[], []⟩)
    (plain : ∀ previous c rest, takeBlock? previous (c :: rest) = none →
      motive (some c) rest (Occurrences.find takeBlock? (some c) rest) →
      motive previous (c :: rest)
        (Occurrences.plain c (Occurrences.find takeBlock? (some c) rest)))
    (item : ∀ previous block rest, block.IsComplete →
      motive (some '\x7d') rest (Occurrences.find takeBlock? (some '\x7d') rest) →
      motive previous (block.text ++ rest)
        (Occurrences.item block (Occurrences.find takeBlock? (some '\x7d') rest)))
    (previous : Option Char) (text : List Char) :
    motive previous text (Occurrences.find takeBlock? previous text) := by
  induction hlength : text.length using Nat.strong_induction_on generalizing previous text with
  | h length ih =>
      subst hlength
      cases text with
      | nil =>
          rw [Occurrences.find_nil]
          exact nil previous
      | cons c text =>
          cases htake : takeBlock? previous (c :: text) with
          | none =>
              rw [Occurrences.find_cons_of_none htake]
              exact plain previous c text htake (ih _ (Nat.lt_succ_self _) _ _ rfl)
          | some found =>
              obtain ⟨block, rest⟩ := found
              obtain ⟨-, hcomplete, hsplit⟩ := takeBlock?_eq_some_iff.mp htake
              have hlast := hcomplete.getLast?_text
              have hnonempty : block.text ≠ [] := by
                intro hnil
                rw [hnil] at hlast
                cases hlast
              have hshorter : rest.length < (c :: text).length := by
                have hpositive := List.length_pos_of_ne_nil hnonempty
                rw [hsplit, List.length_append]
                omega
              rw [hsplit] at htake ⊢
              have hbrace : Occurrences.lastOf previous block.text = some '\x7d' := by
                rw [Occurrences.lastOf, hlast, Option.some_or]
              rw [Occurrences.find_append_of_some hnonempty htake, hbrace]
              exact item previous block rest hcomplete (ih _ hshorter _ _ rfl)

/-- No block starts at a position out of the blocks that are found. -/
theorem takeBlock?_of_uncovered (previous : Option Char) (text : List Char) :
    ∀ position front behind, text = front ++ behind →
      (∀ place ∈ placesFrom position (Occurrences.find takeBlock? previous text).found,
        ¬(place.start ≤ position + front.length ∧ position + front.length < place.stop)) →
      takeBlock? (Occurrences.lastOf previous front) behind = none := by
  refine find_takeBlock?_induct (motive := fun previous text cut =>
    ∀ position front behind, text = front ++ behind →
      (∀ place ∈ placesFrom position cut.found,
        ¬(place.start ≤ position + front.length ∧ position + front.length < place.stop)) →
      takeBlock? (Occurrences.lastOf previous front) behind = none) ?_ ?_ ?_ previous text
  · intro previous position front behind htext _
    obtain ⟨rfl, rfl⟩ := List.append_eq_nil_iff.mp htext.symm
    exact takeBlock?_nil _
  · intro previous c rest hnone ih position front behind htext huncovered
    have hplaces := placesFrom_behind position [c] (Occurrences.find takeBlock? (some c) rest)
    cases front with
    | nil =>
        rw [List.nil_append] at htext
        rw [← htext]
        exact hnone
    | cons d front =>
        obtain ⟨rfl, rfl⟩ := List.cons.inj htext
        rw [← Occurrences.lastOf_cons]
        refine ih (position + 1) front behind rfl fun place hplace => ?_
        have hother := huncovered place (hplaces ▸ hplace)
        rw [List.length_cons] at hother
        omega
  · intro previous block rest hcomplete ih position front behind htext huncovered
    rw [placesFrom_item, List.forall_mem_cons] at huncovered
    obtain ⟨hfirst, hmore⟩ := huncovered
    have hlength : block.text.length ≤ front.length := by
      simp only [Block.placedAt] at hfirst
      omega
    obtain ⟨inner, rfl⟩ := List.prefix_of_prefix_length_le (List.prefix_append block.text rest)
      (htext ▸ List.prefix_append front behind) hlength
    rw [List.append_assoc, List.append_cancel_left_eq] at htext
    have hlast : Occurrences.lastOf previous (block.text ++ inner) =
        Occurrences.lastOf (some '\x7d') inner := by
      rw [Occurrences.lastOf, Occurrences.lastOf, List.getLast?_append, hcomplete.getLast?_text,
        Option.or_assoc, Option.some_or]
    rw [hlast]
    refine ih (position + block.text.length) inner behind htext fun place hplace => ?_
    have hother := hmore place hplace
    rw [List.length_append] at hother
    omega

/-- The blocks at which a text is cut are found at their places. -/
theorem forall₂_placedBlocks (text : List Char) :
    List.Forall₂ (PlacedBlock.Holds text) (placedBlocks text) (blocks text).items := by
  have hplaces := forall₂_placesFrom (isComplete_of_mem_blocks text) (blocks text).tail []
  have hwhole : wholeText ⟨(blocks text).found, (blocks text).tail⟩ = text := wholeText_blocks text
  rwa [hwhole] at hplaces

/-- A head that starts in a block stands in this block, since a brace closes the block. -/
theorem lt_stop_of_headAt? {text name : List Char} {start brace : Nat}
    (hhead : headAt? text start = some (name, brace)) {place : PlacedBlock}
    (hplace : place ∈ placedBlocks text) (hstart : start < place.stop) : brace < place.stop := by
  obtain ⟨front, head, behind, -, hword, rfl, rfl, rfl⟩ := headAt?_eq_some_iff.mp hhead
  obtain ⟨block, -, hholds⟩ := exists_right_of_mem (forall₂_placedBlocks _) hplace
  obtain ⟨hclosing, hstop⟩ := hholds.closing
  by_contra hbeyond
  -- Then the closing brace of the block is a character of the head.
  rw [List.getElem?_append_right (by omega), List.getElem?_append_left (by omega)] at hclosing
  exact hword.not_mem (List.mem_of_getElem? hclosing)

/-- The brace of a head that stands in no block is not closed. -/
theorem closingBraceAt?_of_uncovered {text name : List Char} {start brace : Nat}
    (hhead : headAt? text start = some (name, brace))
    (h : ∀ place ∈ placedBlocks text, ¬(place.start ≤ start ∧ brace < place.stop)) :
    closingBraceAt? text brace = none := by
  have huncovered : ∀ place ∈ placedBlocks text,
      ¬(place.start ≤ 0 + start ∧ 0 + start < place.stop) := by
    intro place hplace hcovered
    rw [Nat.zero_add] at hcovered
    exact h place hplace ⟨hcovered.1, lt_stop_of_headAt? hhead hplace hcovered.2⟩
  obtain ⟨front, head, behind, hboundary, hword, rfl, rfl, rfl⟩ := headAt?_eq_some_iff.mp hhead
  have hnone := takeBlock?_of_uncovered none _ 0 front _ rfl huncovered
  rw [← List.append_assoc, ← List.length_append, closingBraceAt?_append]
  cases hclose : closingBrace? ('\x7b' :: behind) with
  | none => rfl
  | some close =>
      obtain ⟨body, rest, rfl, rfl⟩ := exists_body_of_closingBrace? hclose
      rw [Occurrences.lastOf, Option.or_none, hword.takeBlock?_of_closed hboundary hclose] at hnone
      cases hnone

end SchemaDiagram.SchemaText
