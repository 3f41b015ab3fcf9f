import SchemaDiagram.Proofs.SchemaText.Located

/-!
# What is declared in strings

A complete block is read as a whole, so that nothing in its strings is taken for a declaration.  A
scanner that stands outside of strings in front of a complete block stands outside of strings behind
it as well.  So it depends on the pieces between the blocks alone, each of them read by itself,
whether a declaration starts within a string.  There it may: a table whose closing brace has not
been typed yet is no block, and its notes are searched like any other text.
-/

namespace SchemaDiagram.SchemaText

open SchemaDiagram.Text

/-! ## Strings that a scanner has opened -/

namespace QuoteState

/-- The string that a scanner stands in was opened by a quote. -/
def Genuine : QuoteState → Prop
  | outside => True
  | inside mark => isQuote mark = true
  | escaped mark => isQuote mark = true

theorem Genuine.step {state : QuoteState} (h : state.Genuine) (c : Char) :
    (state.step c).1.Genuine := by
  cases state with
  | outside =>
      by_cases hquote : isQuote c = true
      · simp [QuoteState.step, hquote, Genuine]
      · simp [QuoteState.step, hquote, Genuine]
  | escaped mark => exact h
  | inside mark =>
      simp only [QuoteState.step]
      split
      · exact h
      · split
        · trivial
        · split
          · trivial
          · exact h

theorem genuine_run (text : List Char) : (outside.run text).Genuine := by
  suffices hall : ∀ state : QuoteState, state.Genuine → (state.run text).Genuine from
    hall outside trivial
  induction text with
  | nil => exact fun state h => h
  | cons c text ih => exact fun state h => ih _ (h.step c)

/-- A character that neither is a quote nor ends the line is quoted if it stands in a string. -/
theorem Genuine.quoted {state : QuoteState} (h : state.Genuine) {c : Char}
    (hquote : isQuote c = false) (hfeed : c ≠ '\n') :
    (state.step c).2 = true ↔ state ≠ .outside := by
  cases state with
  | outside => simp [QuoteState.step, hquote]
  | escaped mark => simp [QuoteState.step]
  | inside mark =>
      have hmark : c ≠ mark := by
        rintro rfl
        rw [h] at hquote
        cases hquote
      simp only [QuoteState.step, hmark, hfeed, if_false]
      split <;> simp

theorem length_marks (state : QuoteState) (text : List Char) :
    (state.marks text).length = text.length := by
  induction text generalizing state with
  | nil => rfl
  | cons c text ih => rw [marks, List.length_cons, ih, List.length_cons]

theorem marks_append (state : QuoteState) (text more : List Char) :
    state.marks (text ++ more) = state.marks text ++ (state.run text).marks more := by
  induction text generalizing state with
  | nil => rfl
  | cons c text ih => rw [List.cons_append, marks, marks, ih, List.cons_append]; rfl

end QuoteState

/-- The character behind the front part of a text belongs to a string, as a scanner sees it that
reads the text from its start. -/
def StandsQuoted (text front : List Char) : Prop :=
  (QuoteState.outside.marks text)[front.length]? = some true

instance (text front : List Char) : Decidable (StandsQuoted text front) :=
  inferInstanceAs (Decidable (_ = _))

/-- A keyword is quoted if a scanner stands in a string in front of it. -/
theorem standsQuoted_iff {keyword text front behind : List Char}
    (hkeyword : keyword.head?.any isQuiet = true) (htext : text = front ++ (keyword ++ behind)) :
    StandsQuoted text front ↔ QuoteState.outside.run front ≠ .outside := by
  obtain ⟨c, more, rfl⟩ : ∃ c more, keyword = c :: more := by
    cases keyword with
    | nil => cases hkeyword
    | cons c more => exact ⟨c, more, rfl⟩
  have hquiet : Quiet [c] := List.forall_mem_singleton.mpr hkeyword
  have hfeed : c ≠ '\n' := fun heq => hquiet.not_mem (by decide) (List.mem_singleton.mpr heq.symm)
  have hlength := QuoteState.length_marks .outside front
  rw [StandsQuoted, htext, QuoteState.marks_append,
    List.getElem?_append_right (by rw [hlength]), hlength, Nat.sub_self, List.cons_append,
    QuoteState.marks, List.getElem?_cons_zero, Option.some_inj]
  exact (QuoteState.genuine_run front).quoted (hquiet.isPlain c List.mem_cons_self) hfeed

/-- Every table and every relationship that a text declares starts outside of strings. -/
def StartsUnquoted (dialect : Dialect) (text : List Char) : Prop :=
  (∀ entry ∈ locatedTables dialect text, ¬StandsQuoted text entry.1) ∧
    ∀ entry ∈ locatedRelationships text, ¬StandsQuoted text entry.1

instance (dialect : Dialect) (text : List Char) : Decidable (StartsUnquoted dialect text) :=
  inferInstanceAs (Decidable (_ ∧ _))

/-! ## Keywords in strings -/

section

variable {dialect : Dialect} {text : List Char}

theorem standsQuoted_of_mem_locatedTables {entry : List Char × TableDeclaration}
    (h : entry ∈ locatedTables dialect text) :
    StandsQuoted text entry.1 ↔ QuoteState.outside.run entry.1 ≠ .outside := by
  obtain ⟨behind, htext⟩ := exists_behind_locatedTables dialect text entry h
  exact standsQuoted_iff (by decide) htext

theorem standsQuoted_of_mem_relationshipsWithin {entry : List Char × RelationshipDeclaration}
    (h : entry ∈ relationshipsWithin text) :
    StandsQuoted text entry.1 ↔ QuoteState.outside.run entry.1 ≠ .outside := by
  obtain ⟨behind, htext⟩ := exists_behind_relationshipsWithin text entry h
  exact standsQuoted_iff (by decide) htext

theorem standsQuoted_of_mem_locatedRelationships {entry : List Char × RelationshipDeclaration}
    (h : entry ∈ locatedRelationships text) :
    StandsQuoted text entry.1 ↔ QuoteState.outside.run entry.1 ≠ .outside := by
  obtain ⟨behind, htext⟩ := exists_behind_locatedRelationships text entry h
  exact standsQuoted_iff (by decide) htext

end

/-! ## Blocks are passed over -/

namespace Occurrences

variable {α : Type} {found : List (List Char × Spanned α)}

/-- If the strings in constructs are closed, the constructs stand outside of strings exactly if the
strings in front of each of them are closed as well. -/
theorem run_locatedFrom_iff
    (hpassed : ∀ entry ∈ found, QuoteState.outside.run entry.2.text = .outside)
    {front : List Char} (hfront : QuoteState.outside.run front = .outside) :
    (∀ entry ∈ locatedFrom front found, QuoteState.outside.run entry.1 = .outside) ↔
      ∀ entry ∈ found, QuoteState.outside.run entry.1 = .outside := by
  induction found generalizing front with
  | nil => simp [locatedFrom]
  | cons first found ih =>
      obtain ⟨hfirst, hmore⟩ := List.forall_mem_cons.mp hpassed
      rw [locatedFrom, List.forall_mem_cons, List.forall_mem_cons]
      have hpiece : QuoteState.outside.run (front ++ first.1) = QuoteState.outside.run first.1 := by
        rw [QuoteState.run_append, hfront]
      rw [hpiece]
      refine and_congr_right fun hclosed => ih hmore ?_
      rw [QuoteState.run_append, hpiece, hclosed, hfirst]

/-- Then all pieces between them start outside of strings. -/
theorem run_locatedPiecesFrom
    (hpassed : ∀ entry ∈ found, QuoteState.outside.run entry.2.text = .outside)
    (hclosed : ∀ entry ∈ found, QuoteState.outside.run entry.1 = .outside) (tail : List Char)
    {front : List Char} (hfront : QuoteState.outside.run front = .outside) :
    ∀ entry ∈ locatedPiecesFrom tail front found, QuoteState.outside.run entry.1 = .outside := by
  induction found generalizing front with
  | nil => exact List.forall_mem_singleton.mpr hfront
  | cons first found ih =>
      obtain ⟨hfirst, hmore⟩ := List.forall_mem_cons.mp hpassed
      obtain ⟨hpiece, hpieces⟩ := List.forall_mem_cons.mp hclosed
      rw [locatedPiecesFrom, List.forall_mem_cons]
      refine ⟨hfront, ih hmore hpieces ?_⟩
      rw [QuoteState.run_append, QuoteState.run_append, hfront, hpiece, hfirst]

end Occurrences

section

variable {dialect : Dialect} {text : List Char}

theorem run_of_mem_spannedBlocks (text : List Char) : ∀ entry ∈ (spannedBlocks text).found,
    QuoteState.outside.run entry.2.text = .outside := by
  intro entry hentry
  obtain ⟨hcomplete, htext⟩ := isComplete_spannedBlocks text entry hentry
  rw [htext]
  exact hcomplete.run_text

theorem found_blocks (text : List Char) :
    (blocks text).found = (spannedBlocks text).found.map (Prod.map id Spanned.value) :=
  congrArg Occurrences.found (map_spannedBlocks text).symm

/-- The tables start outside of strings exactly if the strings in front of each block are closed. -/
theorem tables_unquoted_iff :
    (∀ entry ∈ locatedTables dialect text, ¬StandsQuoted text entry.1) ↔
      ∀ entry ∈ (blocks text).found, QuoteState.outside.run entry.1 = .outside := by
  have hstart : QuoteState.outside.run [] = .outside := rfl
  have hplaces := Occurrences.run_locatedFrom_iff (run_of_mem_spannedBlocks text) hstart
  calc
    (∀ entry ∈ locatedTables dialect text, ¬StandsQuoted text entry.1)
        ↔ ∀ entry ∈ locatedTables dialect text, QuoteState.outside.run entry.1 = .outside :=
          forall₂_congr fun entry hentry => by
            rw [standsQuoted_of_mem_locatedTables hentry, not_not]
    _ ↔ ∀ entry ∈ (spannedBlocks text).found, QuoteState.outside.run entry.1 = .outside := by
          rw [← hplaces, locatedTables, List.forall_mem_map]
          rfl
    _ ↔ ∀ entry ∈ (blocks text).found, QuoteState.outside.run entry.1 = .outside := by
          rw [found_blocks, List.forall_mem_map]
          rfl

/-- Then the relationships do so exactly if they do so in the pieces. -/
theorem relationships_unquoted_iff
    (h : ∀ entry ∈ (blocks text).found, QuoteState.outside.run entry.1 = .outside) :
    (∀ entry ∈ locatedRelationships text, ¬StandsQuoted text entry.1) ↔
      ∀ piece ∈ (blocks text).pieces, ∀ entry ∈ relationshipsWithin piece,
        ¬StandsQuoted piece entry.1 := by
  rw [found_blocks, List.forall_mem_map] at h
  have hstart : QuoteState.outside.run [] = .outside := rfl
  have hfronts := Occurrences.run_locatedPiecesFrom (run_of_mem_spannedBlocks text) h
    (spannedBlocks text).tail hstart
  rw [← map_spannedBlocks, ← Occurrences.map_snd_locatedPieces, List.forall_mem_map]
  constructor
  · intro hall place hplace entry hentry
    have hmem : (place.1 ++ entry.1, entry.2) ∈ locatedRelationships text :=
      List.mem_flatMap.mpr ⟨place, hplace, List.mem_map.mpr ⟨entry, hentry, rfl⟩⟩
    have hunquoted := hall _ hmem
    rw [standsQuoted_of_mem_locatedRelationships hmem, QuoteState.run_append,
      hfronts place hplace] at hunquoted
    rwa [standsQuoted_of_mem_relationshipsWithin hentry]
  · intro hall entry hmem
    obtain ⟨place, hplace, hwithin⟩ := List.mem_flatMap.mp hmem
    obtain ⟨inner, hinner, rfl⟩ := List.mem_map.mp hwithin
    have hunquoted := hall place hplace inner hinner
    rw [standsQuoted_of_mem_relationshipsWithin hinner] at hunquoted
    rw [standsQuoted_of_mem_locatedRelationships hmem]
    change ¬QuoteState.outside.run (place.1 ++ inner.1) ≠ .outside
    rwa [QuoteState.run_append, hfronts place hplace]

/-- No relationship of a piece without quotes starts in a string. -/
theorem relationshipsWithin_unquoted {piece : List Char} (h : IsPlain piece) :
    ∀ entry ∈ relationshipsWithin piece, ¬StandsQuoted piece entry.1 := by
  intro entry hentry
  obtain ⟨behind, hpiece⟩ := exists_behind_relationshipsWithin piece entry hentry
  have hfront : IsPlain entry.1 := fun c hc => h c (by rw [hpiece]; exact List.mem_append_left _ hc)
  rw [standsQuoted_of_mem_relationshipsWithin hentry, not_not]
  exact run_of_isPlain hfront

end

/-! ## When nothing is declared in strings -/

/-- Every declaration that a text makes starts outside of strings exactly if the strings in front of
each block are closed and in no piece between the blocks, read by itself, a relationship starts in
a string.  In particular this holds for texts with no quotes outside of their blocks. -/
theorem startsUnquoted_iff (dialect : Dialect) (text : String) :
    let plain := stripComments text.toList
    (locatedTables dialect plain).map Prod.snd = (parse dialect text).tables ∧
      (locatedRelationships plain).map Prod.snd = (parse dialect text).relationships ∧
      (StartsUnquoted dialect plain ↔
        (∀ entry ∈ (blocks plain).found, QuoteState.outside.run entry.1 = .outside) ∧
          ∀ piece ∈ (blocks plain).pieces, ∀ entry ∈ relationshipsWithin piece,
            ¬StandsQuoted piece entry.1) ∧
      ((∀ piece ∈ (blocks plain).pieces, IsPlain piece) → StartsUnquoted dialect plain) := by
  intro plain
  have hiff : StartsUnquoted dialect plain ↔
      (∀ entry ∈ (blocks plain).found, QuoteState.outside.run entry.1 = .outside) ∧
        ∀ piece ∈ (blocks plain).pieces, ∀ entry ∈ relationshipsWithin piece,
          ¬StandsQuoted piece entry.1 := by
    rw [StartsUnquoted, tables_unquoted_iff]
    exact and_congr_right relationships_unquoted_iff
  refine ⟨map_snd_locatedTables dialect plain, map_snd_locatedRelationships dialect plain, hiff,
    fun hplain => hiff.mpr ⟨fun entry hentry => ?_, fun piece hpiece => ?_⟩⟩
  · exact run_of_isPlain (hplain entry.1 (List.mem_append_left _ (List.mem_map_of_mem hentry)))
  · exact relationshipsWithin_unquoted (hplain piece hpiece)

/-- A table with a relationship in its note, and one below it. -/
def notedTable : String :=
  "Table a \x7b\n\tNote: 'Rel x: 1 a.id, N b.id'\n\tid int\n\x7d\nRel fk: N a.id, 1 a.id"

theorem startsUnquoted_notedTable :
    StartsUnquoted .generic (stripComments notedTable.toList) ∧
      (parse .generic notedTable).relationships.length = 1 := by
  obtain ⟨-, -, -, hplain⟩ := startsUnquoted_iff .generic notedTable
  have hpieces : ((blocks (stripComments notedTable.toList)).pieces.all fun piece =>
      piece.all fun c => !isQuote c) = true := by decide +kernel
  exact ⟨hplain (by simpa [IsPlain] using hpieces), by decide +kernel⟩

/-- A table that is still being typed, with a relationship in the note of a field. -/
def notedField : String :=
  "Table a \x7b\n\tid int [note: 'Rel fk: N a.x, 1 b.y']\n"

/-- The note of a table without its closing brace declares a relationship. -/
theorem not_startsUnquoted_notedField :
    (parse .generic notedField).relationships.length = 1 ∧
      ¬StartsUnquoted .generic (stripComments notedField.toList) := by
  decide +kernel

end SchemaDiagram.SchemaText
