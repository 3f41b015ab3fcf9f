import SchemaDiagram.Proofs.SchemaText.Readable

/-!
# Where declarations stand

A cut loses nothing: the pieces of plain text and the texts of the constructs between them make up
the text again.  So every construct has a place, which is the text in front of it, and behind that
text stands its keyword.  Tables have their place in the text, relationships in one of the pieces.
-/

namespace SchemaDiagram.SchemaText

open SchemaDiagram.Text

variable {α β : Type}

/-! ## Constructs with their texts -/

/-- A construct and the text it was read from. -/
structure Spanned (α : Type) where
  text : List Char
  value : α

/-- A recogniser that keeps the texts of what it recognises. -/
def spanned (recognise : Recogniser α) : Recogniser (Spanned α) := fun previous text =>
  (recognise previous text).map fun found =>
    (⟨text.take (text.length - found.2.length), found.1⟩, found.2)

/-- What is recognised starts with a keyword and stands at the front of the text. -/
def Leads (keyword : List Char) (recognise : Recogniser α) : Prop :=
  ∀ previous text value rest, recognise previous text = some (value, rest) →
    ∃ more, text = keyword ++ (more ++ rest)

theorem Leads.spanned_eq_some {keyword : List Char} {recognise : Recogniser α}
    (h : Leads keyword recognise) {previous : Option Char} {text rest : List Char}
    {found : Spanned α} (hfound : spanned recognise previous text = some (found, rest)) :
    recognise previous text = some (found.value, rest) ∧ text = found.text ++ rest ∧
      ∃ more, found.text = keyword ++ more := by
  obtain ⟨⟨value, behind⟩, htake, heq⟩ := Option.map_eq_some_iff.mp hfound
  obtain ⟨rfl, rfl⟩ := Prod.mk.inj heq
  obtain ⟨more, htext⟩ := h _ _ _ _ htake
  have hcut : text.take (text.length - behind.length) = keyword ++ more := by
    rw [htext, ← List.append_assoc, List.length_append, Nat.add_sub_cancel, List.take_left]
  exact ⟨htake, by rw [hcut, htext, List.append_assoc], more, hcut⟩

namespace Occurrences

/-- The same cut with other values. -/
def map (f : α → β) (cut : Occurrences α) : Occurrences β :=
  ⟨cut.found.map (Prod.map id f), cut.tail⟩

theorem map_plain (f : α → β) (c : Char) (cut : Occurrences α) :
    (plain c cut).map f = plain c (cut.map f) := by
  obtain ⟨found, tail⟩ := cut
  cases found <;> rfl

theorem map_item (f : α → β) (value : α) (cut : Occurrences α) :
    (item value cut).map f = item (f value) (cut.map f) := rfl

/-- Keeping the texts of constructs does not change what is found. -/
theorem map_find_spanned (recognise : Recogniser α) (previous : Option Char) (text : List Char) :
    (find (spanned recognise) previous text).map Spanned.value =
      find recognise previous text := by
  fun_induction find recognise previous text with
  | case1 previous =>
      rw [find_nil]
      rfl
  | case2 previous c rest value after htake hshorter ih =>
      rw [find, spanned, htake]
      simp only [Option.map_some, hshorter, dite_true, map_item, ih]
  | case3 previous c rest value after htake hlonger ih =>
      rw [find, spanned, htake]
      simp only [Option.map_some, hlonger, dite_false, map_plain, ih]
  | case4 previous c rest hnone ih =>
      rw [find, spanned, hnone]
      simp only [Option.map_none, map_plain, ih]

/-- Pieces and constructs one after another, and the piece at the end. -/
def joined (tail : List Char) : List (List Char × Spanned α) → List Char
  | [] => tail
  | (piece, construct) :: more => piece ++ (construct.text ++ joined tail more)

/-- The text that was cut. -/
def text (cut : Occurrences (Spanned α)) : List Char :=
  joined cut.tail cut.found

theorem text_plain (c : Char) (cut : Occurrences (Spanned α)) :
    (plain c cut).text = c :: cut.text := by
  obtain ⟨found, tail⟩ := cut
  cases found <;> rfl

theorem text_item (construct : Spanned α) (cut : Occurrences (Spanned α)) :
    (item construct cut).text = construct.text ++ cut.text := rfl

/-- A cut loses nothing. -/
theorem text_find {keyword : List Char} {recognise : Recogniser α} (h : Leads keyword recognise)
    (previous : Option Char) (whole : List Char) :
    (find (spanned recognise) previous whole).text = whole := by
  fun_induction find (spanned recognise) previous whole with
  | case1 => rfl
  | case2 previous c rest value after htake hshorter ih =>
      obtain ⟨-, hsplit, -⟩ := h.spanned_eq_some htake
      rw [text_item, ih, ← hsplit]
  | case3 previous c rest value after htake hlonger ih => rw [text_plain, ih]
  | case4 previous c rest hnone ih => rw [text_plain, ih]

/-! ## Places -/

/-- The constructs found, each with the text in front of it, where `front` stands before the
first piece. -/
def locatedFrom (front : List Char) : List (List Char × Spanned α) → List (List Char × α)
  | [] => []
  | (piece, construct) :: more =>
    (front ++ piece, construct.value) :: locatedFrom (front ++ piece ++ construct.text) more

/-- The pieces of plain text, each with the text in front of it. -/
def locatedPiecesFrom (tail front : List Char) :
    List (List Char × Spanned α) → List (List Char × List Char)
  | [] => [(front, tail)]
  | (piece, construct) :: more =>
    (front, piece) :: locatedPiecesFrom tail (front ++ piece ++ construct.text) more

/-- The constructs with the texts in front of them. -/
def located (cut : Occurrences (Spanned α)) : List (List Char × α) :=
  locatedFrom [] cut.found

/-- The pieces with the texts in front of them. -/
def locatedPieces (cut : Occurrences (Spanned α)) : List (List Char × List Char) :=
  locatedPiecesFrom cut.tail [] cut.found

theorem map_snd_located (cut : Occurrences (Spanned α)) :
    cut.located.map Prod.snd = (cut.map Spanned.value).items := by
  obtain ⟨found, tail⟩ := cut
  suffices hall : ∀ front, (locatedFrom front found).map Prod.snd =
      (found.map (Prod.map id Spanned.value)).map Prod.snd from hall []
  induction found with
  | nil => exact fun front => rfl
  | cons entry found ih =>
      intro front
      rw [locatedFrom, List.map_cons, ih]
      rfl

theorem map_snd_locatedPieces (cut : Occurrences (Spanned α)) :
    cut.locatedPieces.map Prod.snd = (cut.map Spanned.value).pieces := by
  obtain ⟨found, tail⟩ := cut
  suffices hall : ∀ front, (locatedPiecesFrom tail front found).map Prod.snd =
      (found.map (Prod.map id Spanned.value)).map Prod.fst ++ [tail] from hall []
  induction found with
  | nil => exact fun front => rfl
  | cons entry found ih =>
      intro front
      rw [locatedPiecesFrom, List.map_cons, ih]
      rfl

/-- At the place of a construct stands its keyword. -/
theorem exists_behind_located {keyword : List Char} {cut : Occurrences (Spanned α)}
    (h : ∀ entry ∈ cut.found, ∃ more, entry.2.text = keyword ++ more) :
    ∀ entry ∈ cut.located, ∃ behind, cut.text = entry.1 ++ (keyword ++ behind) := by
  obtain ⟨found, tail⟩ := cut
  suffices hall : ∀ front, ∀ entry ∈ locatedFrom front found, ∃ behind,
      front ++ joined tail found = entry.1 ++ (keyword ++ behind) from hall []
  induction found with
  | nil => exact fun front entry hentry => absurd hentry List.not_mem_nil
  | cons first found ih =>
      intro front
      obtain ⟨⟨more, htext⟩, hmore⟩ := List.forall_mem_cons.mp h
      rw [locatedFrom, List.forall_mem_cons]
      constructor
      · exact ⟨more ++ joined tail found, by simp [joined, htext]⟩
      · simpa [joined] using ih hmore (front ++ first.1 ++ first.2.text)

/-- At the place of a piece stands the piece. -/
theorem exists_behind_locatedPieces (cut : Occurrences (Spanned α)) :
    ∀ entry ∈ cut.locatedPieces, ∃ behind, cut.text = entry.1 ++ (entry.2 ++ behind) := by
  obtain ⟨found, tail⟩ := cut
  suffices hall : ∀ front, ∀ entry ∈ locatedPiecesFrom tail front found, ∃ behind,
      front ++ joined tail found = entry.1 ++ (entry.2 ++ behind) from hall []
  induction found with
  | nil =>
      intro front entry hentry
      obtain rfl := List.mem_singleton.mp hentry
      exact ⟨[], by simp [joined]⟩
  | cons first found ih =>
      intro front
      rw [locatedPiecesFrom, List.forall_mem_cons]
      constructor
      · exact ⟨first.2.text ++ joined tail found, by simp [joined]⟩
      · simpa [joined] using ih (front ++ first.1 ++ first.2.text)

end Occurrences

theorem Leads.exists_behind {keyword : List Char} {recognise : Recogniser α}
    (h : Leads keyword recognise) (text : List Char) :
    ∀ entry ∈ (Occurrences.ofText (spanned recognise) text).located, ∃ behind,
      text = entry.1 ++ (keyword ++ behind) := by
  have hitems : ∀ found ∈ (Occurrences.ofText (spanned recognise) text).items,
      ∃ more, found.text = keyword ++ more :=
    forall_mem_items_find (fun _ _ _ _ hfound => (h.spanned_eq_some hfound).2.2) none text
  have hplaces := Occurrences.exists_behind_located
    (fun entry hentry => hitems entry.2 (List.mem_map_of_mem hentry))
  have htext : (Occurrences.ofText (spanned recognise) text).text = text :=
    Occurrences.text_find h none text
  rwa [htext] at hplaces

/-! ## Tables -/

theorem leads_takeBlock? : Leads tableKeyword takeBlock? := by
  intro previous text block rest htake
  obtain ⟨-, hcomplete, rfl⟩ := takeBlock?_eq_some_iff.mp htake
  obtain ⟨gap, space, -, -, -, htext⟩ := hcomplete.text
  rw [htext, List.append_assoc]
  exact ⟨_, rfl⟩

/-- The text cut at its table blocks, with the texts of the blocks. -/
def spannedBlocks (text : List Char) : Occurrences (Spanned Block) :=
  Occurrences.ofText (spanned takeBlock?) text

/-- The tables that a text declares, each with the text in front of it. -/
def locatedTables (dialect : Dialect) (text : List Char) : List (List Char × TableDeclaration) :=
  (spannedBlocks text).located.map (Prod.map id (Block.declare dialect))

theorem map_spannedBlocks (text : List Char) :
    (spannedBlocks text).map Spanned.value = blocks text :=
  Occurrences.map_find_spanned takeBlock? none text

theorem text_spannedBlocks (text : List Char) : (spannedBlocks text).text = text :=
  Occurrences.text_find leads_takeBlock? none text

/-- The tables with a place are the tables that the text declares. -/
theorem map_snd_locatedTables (dialect : Dialect) (text : List Char) :
    (locatedTables dialect text).map Prod.snd = (parsePlain dialect text).tables := by
  have hvalues := Occurrences.map_snd_located (spannedBlocks text)
  rw [map_spannedBlocks] at hvalues
  rw [parsePlain, ← hvalues, locatedTables, List.map_map, List.map_map]
  rfl

/-- A block that is found is complete, and its text is the text that it was read from. -/
theorem isComplete_spannedBlocks (text : List Char) : ∀ entry ∈ (spannedBlocks text).found,
    entry.2.value.IsComplete ∧ entry.2.text = entry.2.value.text := by
  have htaken : ∀ previous text found rest, spanned takeBlock? previous text = some (found, rest) →
      found.value.IsComplete ∧ found.text = found.value.text := by
    intro previous text found rest hfound
    obtain ⟨htake, htext, -⟩ := leads_takeBlock?.spanned_eq_some hfound
    obtain ⟨-, hcomplete, hblock⟩ := takeBlock?_eq_some_iff.mp htake
    exact ⟨hcomplete, List.append_cancel_right (htext.symm.trans hblock)⟩
  intro entry hentry
  exact forall_mem_items_find htaken none text entry.2 (List.mem_map_of_mem hentry)

/-- At the place of a table stands the keyword of tables. -/
theorem exists_behind_locatedTables (dialect : Dialect) (text : List Char) :
    ∀ entry ∈ locatedTables dialect text, ∃ behind,
      text = entry.1 ++ (tableKeyword ++ behind) := by
  intro entry hentry
  obtain ⟨place, hplace, rfl⟩ := List.mem_map.mp hentry
  exact leads_takeBlock?.exists_behind text place hplace

/-! ## Relationships -/

theorem skipInlineSome?_suffix {text rest : List Char} (h : skipInlineSome? text = some rest) :
    rest <:+ text := by
  rw [skipInlineSome?] at h
  split at h
  · rw [← Option.some.inj h]
    exact List.dropWhile_suffix _
  · cases h

theorem afterChar?_suffix {mark : Char} {text rest : List Char}
    (h : afterChar? mark text = some rest) : rest <:+ text := by
  cases text with
  | nil => cases h
  | cons c text =>
      rw [afterChar?] at h
      split at h
      · rw [← Option.some.inj h]
        exact List.suffix_cons c text
      · cases h

theorem skipInline_suffix (text : List Char) : skipInline text <:+ text :=
  List.dropWhile_suffix isInlineBlank

theorem takeEnd?_suffix {text rest : List Char} {statement : EndStatement}
    (h : takeEnd? text = some (statement, rest)) : rest <:+ text := by
  simp only [takeEnd?, Option.bind_eq_bind, Option.bind_eq_some_iff] at h
  obtain ⟨_, _, _, hblank, ⟨_, _⟩, htable, _, hpoint, ⟨_, _⟩, hfield, hstatement⟩ := h
  obtain ⟨-, rfl⟩ := Prod.mk.inj (Option.some.inj hstatement)
  exact (takeWord?_suffix hfield).trans ((afterChar?_suffix hpoint).trans
    ((takeWord?_suffix htable).trans ((skipInlineSome?_suffix hblank).trans
      (List.dropWhile_suffix _))))

theorem leads_takeRelationship? : Leads relationshipKeyword takeRelationship? := by
  intro previous text statement rest htake
  simp only [takeRelationship?, Option.bind_eq_bind, Option.bind_eq_some_iff] at htake
  obtain ⟨_, _, behind, hkeyword, _, hblank, ⟨_, _⟩, hname, _, hcolon, ⟨_, _⟩, hsource, _, hcomma,
    ⟨_, _⟩, htarget, hstatement⟩ := htake
  obtain ⟨-, rfl⟩ := Prod.mk.inj (Option.some.inj hstatement)
  have hsourceSuffix : _ <:+ behind := (skipInline_suffix _).trans ((afterChar?_suffix hcolon).trans
    ((skipInline_suffix _).trans ((takeWord?_suffix hname).trans (skipInlineSome?_suffix hblank))))
  have htargetSuffix : _ <:+ behind := (skipInline_suffix _).trans ((afterChar?_suffix hcomma).trans
    ((skipInline_suffix _).trans ((takeEnd?_suffix hsource).trans hsourceSuffix)))
  obtain ⟨more, rfl⟩ := (takeEnd?_suffix htarget).trans htargetSuffix
  exact ⟨more, afterPrefix?_eq_some hkeyword⟩

/-- The piece of text cut at its relationships, with the texts of these. -/
def spannedRelationships (piece : List Char) : Occurrences (Spanned RelationshipStatement) :=
  Occurrences.ofText (spanned takeRelationship?) piece

/-- The relationships that a piece of text declares, each with the text in front of it. -/
def relationshipsWithin (piece : List Char) : List (List Char × RelationshipDeclaration) :=
  (spannedRelationships piece).located.map (Prod.map id RelationshipStatement.declare)

/-- The relationships that a text declares, each with the text in front of it. -/
def locatedRelationships (text : List Char) : List (List Char × RelationshipDeclaration) :=
  (spannedBlocks text).locatedPieces.flatMap fun place =>
    (relationshipsWithin place.2).map (Prod.map (place.1 ++ ·) id)

theorem map_snd_relationshipsWithin (piece : List Char) :
    (relationshipsWithin piece).map Prod.snd = relationshipsOfPiece piece := by
  have hvalues := Occurrences.map_snd_located (spannedRelationships piece)
  rw [spannedRelationships, Occurrences.ofText, Occurrences.map_find_spanned] at hvalues
  rw [relationshipsOfPiece, Occurrences.ofText, ← hvalues, relationshipsWithin, List.map_map,
    List.map_map]
  rfl

/-- The relationships with a place are the relationships that the text declares. -/
theorem map_snd_locatedRelationships (dialect : Dialect) (text : List Char) :
    (locatedRelationships text).map Prod.snd = (parsePlain dialect text).relationships := by
  have hpieces := Occurrences.map_snd_locatedPieces (spannedBlocks text)
  rw [map_spannedBlocks] at hpieces
  rw [parsePlain, ← hpieces, locatedRelationships, List.map_flatMap, List.flatMap_map]
  congr 1
  funext place
  rw [← map_snd_relationshipsWithin, List.map_map]
  rfl

/-- At the place of a relationship in a piece stands the keyword of relationships. -/
theorem exists_behind_relationshipsWithin (piece : List Char) :
    ∀ entry ∈ relationshipsWithin piece, ∃ behind,
      piece = entry.1 ++ (relationshipKeyword ++ behind) := by
  intro entry hentry
  obtain ⟨place, hplace, rfl⟩ := List.mem_map.mp hentry
  exact leads_takeRelationship?.exists_behind piece place hplace

/-- At the place of a relationship stands the keyword of relationships. -/
theorem exists_behind_locatedRelationships (text : List Char) :
    ∀ entry ∈ locatedRelationships text, ∃ behind,
      text = entry.1 ++ (relationshipKeyword ++ behind) := by
  intro entry hentry
  obtain ⟨place, hplace, hwithin⟩ := List.mem_flatMap.mp hentry
  obtain ⟨inner, hinner, rfl⟩ := List.mem_map.mp hwithin
  obtain ⟨rest, htext⟩ := Occurrences.exists_behind_locatedPieces _ place hplace
  obtain ⟨behind, hpiece⟩ := exists_behind_relationshipsWithin place.2 inner hinner
  rw [text_spannedBlocks, hpiece] at htext
  exact ⟨behind ++ rest, by simpa using htext⟩

end SchemaDiagram.SchemaText
