import SchemaDiagram.Proofs.SchemaText.Comment

/-!
# Reading what was written

The text of a model is a list of blocks with empty lines between them.  It holds no comment, the
blocks are found one after another, and what stands between them is blank up to the relationships
at the end.  So reading the text gives the declarations of the tables and relationships written, in
order, and nothing else; comments of the model and names of indexes may hold any characters.
-/

namespace SchemaDiagram.SchemaText

open SchemaDiagram.Text

variable {κ : Type}

/-! ## The text of a model -/

/-- The blocks of some tables in front of the relationships of a model. -/
def blocksText (tables : List (Table κ)) (relationships : List (List Char)) : List Char :=
  joinWith ['\n', '\n'] (tables.map tableText ++ relationships)

theorem blocksText_nil (relationships : List (List Char)) :
    blocksText ([] : List (Table κ)) relationships = joinWith ['\n', '\n'] relationships := rfl

theorem tableText_ne_nil (table : Table κ) : tableText table ≠ [] := by
  simp [tableText_eq, tableKeyword]

theorem joinWith_ne_nil {separator : List Char} {parts : List (List Char)} (hparts : parts ≠ [])
    (h : ∀ part ∈ parts, part ≠ []) : joinWith separator parts ≠ [] := by
  cases parts with
  | nil => exact absurd rfl hparts
  | cons part parts =>
      have hpart := h part List.mem_cons_self
      cases parts with
      | nil => rwa [joinWith_singleton]
      | cons second parts => simp [joinWith_cons, hpart]

/-- What stands behind a block: nothing, or an empty line and the next block. -/
theorem blocksText_cons (table : Table κ) (tables : List (Table κ))
    {relationships : List (List Char)} (h : ∀ line ∈ relationships, line ≠ []) :
    (tables = [] ∧ relationships = [] ∧
        blocksText (table :: tables) relationships = tableText table ++ []) ∨
      (blocksText tables relationships ≠ [] ∧
        blocksText (table :: tables) relationships =
          tableText table ++ ('\n' :: '\n' :: blocksText tables relationships)) := by
  have hblocks : ∀ block ∈ tables.map tableText ++ relationships, block ≠ [] := by
    intro block hblock
    rcases List.mem_append.mp hblock with hblock | hblock
    · obtain ⟨other, -, rfl⟩ := List.mem_map.mp hblock
      exact tableText_ne_nil other
    · exact h block hblock
  by_cases hnone : tables.map tableText ++ relationships = []
  · obtain ⟨htables, rfl⟩ := List.append_eq_nil_iff.mp hnone
    obtain rfl := List.map_eq_nil_iff.mp htables
    exact .inl ⟨rfl, rfl, by simp [blocksText, joinWith_singleton]⟩
  · refine .inr ⟨joinWith_ne_nil hnone hblocks, ?_⟩
    rw [blocksText, List.map_cons, List.cons_append, joinWith_cons _ _ hnone]
    rfl

theorem generateChars_eq (tables : List (Table κ)) (relationships : List Relationship) :
    generateChars tables relationships =
      blocksText tables (relationshipBlock tables relationships) := rfl

/-- The lines of relationships as the last block. -/
theorem joinWith_relationshipBlock (tables : List (Table κ)) (relationships : List Relationship) :
    joinWith ['\n', '\n'] (relationshipBlock tables relationships) =
      joinWith ['\n'] (relationships.filterMap (relationshipLine? tables)) := by
  rw [relationshipBlock]
  split
  · next hempty =>
      rw [List.isEmpty_iff.mp hempty]
      rfl
  · rw [joinWith_singleton]

/-- A model whose text can be read back. -/
structure Writable (dialect : Dialect) (tables : List (Table κ))
    (relationships : List Relationship) : Prop where
  tables : ∀ table ∈ tables, table.Writable dialect
  relationships : ∀ relationship ∈ relationships, isWord relationship.name.toList = true

/-- A model that its text declares again. -/
structure Legible (dialect : Dialect) (tables : List (Table κ))
    (relationships : List Relationship) : Prop where
  tables : ∀ table ∈ tables, table.Legible dialect
  relationships : ∀ relationship ∈ relationships, isWord relationship.name.toList = true

section

variable {dialect : Dialect} {tables : List (Table κ)} {relationships : List Relationship}

theorem Writable.legible (h : Writable dialect tables relationships) :
    Legible dialect tables relationships :=
  ⟨fun table htable => (h.tables table htable).legible, h.relationships⟩

theorem Legible.words (h : Legible dialect tables relationships) :
    ∀ table ∈ tables, isWord table.name.toList = true ∧
      ∀ field ∈ table.fields, isWord field.name.toList = true := fun table htable =>
  ⟨(h.tables table htable).name,
    fun field hfield => ((h.tables table htable).fields field hfield).name⟩

/-- The lines of relationships mean nothing to a scanner. -/
theorem Legible.quiet_lines (h : Legible dialect tables relationships) :
    ∀ line ∈ relationships.filterMap (relationshipLine? tables), Quiet line ∧ line ≠ [] := by
  intro line hline
  obtain ⟨relationship, hmem, hsome⟩ := List.mem_filterMap.mp hline
  obtain ⟨hnone, -⟩ | ⟨source, target, hsource, htarget, htext, -⟩ :=
    line_and_declared h.words relationship
  · rw [hnone] at hsome
    cases hsome
  · obtain rfl := Option.some.inj (htext.symm.trans hsome)
    exact ⟨quiet_relationshipText (h.relationships relationship hmem) hsource htarget,
      by simp [relationshipText, relationshipKeyword]⟩

/-! ## Comments -/

theorem isKept_blocksText {block : List (List Char)}
    (htables : ∀ table ∈ tables, table.Legible dialect) (hblock : ∀ line ∈ block, line ≠ [])
    (hkept : IsKept (joinWith ['\n', '\n'] block)) : IsKept (blocksText tables block) := by
  induction tables with
  | nil => exact hkept
  | cons table tables ih =>
      have htable := htables table List.mem_cons_self
      have hmore := ih fun other hother => htables other (List.mem_cons_of_mem _ hother)
      rcases blocksText_cons table tables hblock with ⟨-, -, htext⟩ | ⟨hnonempty, htext⟩
      · rw [htext]
        exact isKept_tableText htable (.inl rfl)
      · rw [htext]
        exact isKept_tableText htable (.inr ⟨_, rfl, hnonempty, hmore⟩)

theorem Legible.block_ne_nil (h : Legible dialect tables relationships) :
    ∀ block ∈ relationshipBlock tables relationships, block ≠ [] := by
  intro block hblock
  rw [relationshipBlock] at hblock
  split at hblock
  · exact absurd hblock List.not_mem_nil
  · next hnonempty =>
      obtain rfl := List.mem_singleton.mp hblock
      exact joinWith_ne_nil (by simpa using hnonempty) fun line hline =>
        (h.quiet_lines line hline).2

/-- A written text holds no comment. -/
theorem stripComments_generateChars (h : Legible dialect tables relationships) :
    stripComments (generateChars tables relationships) =
      generateChars tables relationships := by
  have hlines := h.quiet_lines
  rw [generateChars_eq]
  refine isKept_blocksText h.tables h.block_ne_nil ?_
  rw [joinWith_relationshipBlock]
  exact isKept_joinWith fun line hline =>
    ⟨(hlines line hline).1.inert.isKeptLine, (hlines line hline).2⟩

/-! ## Blocks -/

theorem takeBlock?_feed (previous : Option Char) (rest : List Char) :
    takeBlock? previous ('\n' :: rest) = none := by
  simp only [takeBlock?]
  cases isBoundary previous <;> rfl

/-- No table starts in a text without an opening brace. -/
theorem takeBlock?_of_not_mem {text : List Char} (h : '\x7b' ∉ text) (previous : Option Char) :
    takeBlock? previous text = none := by
  rw [← Option.not_isSome_iff_eq_none, Option.isSome_iff_exists]
  rintro ⟨⟨block, rest⟩, htake⟩
  obtain ⟨-, hcomplete, rfl⟩ := takeBlock?_eq_some_iff.mp htake
  obtain ⟨gap, space, -, -, -, htext⟩ := hcomplete.text
  exact h (by simp [htext])

theorem find_takeBlock?_of_not_mem {text : List Char} (h : '\x7b' ∉ text)
    (previous : Option Char) : Occurrences.find takeBlock? previous text = ⟨[], text⟩ := by
  have hskips : Occurrences.Skips takeBlock? [] previous text := by
    refine Occurrences.skips_of_suffix (fun last suffix hsuffix _ => ?_) previous
    rw [List.append_nil]
    exact takeBlock?_of_not_mem (fun hmem => h (hsuffix.mem hmem)) last
  have hfind := Occurrences.find_append_of_skips hskips
  rw [List.append_nil, Occurrences.find_nil, Occurrences.behind_tail, List.append_nil] at hfind
  exact hfind

/-- Line breaks only. -/
def IsGap (text : List Char) : Prop :=
  ∀ c ∈ text, c = '\n'

/-- A text was cut at blocks that declare tables, and plain text stands at its end only. -/
structure CutAt (dialect : Dialect) (tables : List (Table κ)) (tail : List Char)
    (cut : Occurrences Block) : Prop where
  declared : cut.items.map (Block.declare dialect) = tables.map Table.declared
  fronts : ∀ entry ∈ cut.found, IsGap entry.1
  tail : ∃ gap, IsGap gap ∧ cut.tail = gap ++ tail

theorem CutAt.feed {tail : List Char} {cut : Occurrences Block}
    (h : CutAt dialect tables tail cut) :
    CutAt dialect tables tail (Occurrences.plain '\n' cut) := by
  obtain ⟨hdeclared, hfronts, gap, hgap, htail⟩ := h
  obtain ⟨found, last⟩ := cut
  have hcons : ∀ front, IsGap front → IsGap ('\n' :: front) := fun front hfront c hc =>
    (List.mem_cons.mp hc).elim id (hfront c)
  cases found with
  | nil => exact ⟨hdeclared, hfronts, '\n' :: gap, hcons gap hgap, congrArg ('\n' :: ·) htail⟩
  | cons entry found =>
      refine ⟨hdeclared, ?_, gap, hgap, htail⟩
      intro other hother
      rcases List.mem_cons.mp hother with rfl | hother
      · exact hcons entry.1 (hfronts entry List.mem_cons_self)
      · exact hfronts other (List.mem_cons_of_mem _ hother)

theorem CutAt.table {tail : List Char} {cut : Occurrences Block} {table : Table κ} {block : Block}
    (h : CutAt dialect tables tail cut) (hblock : block.declare dialect = table.declared) :
    CutAt dialect (table :: tables) tail (Occurrences.item block cut) := by
  refine ⟨by simp [hblock, h.declared], ?_, h.tail⟩
  intro entry hentry
  rcases List.mem_cons.mp hentry with rfl | hentry
  · exact fun c hc => absurd hc List.not_mem_nil
  · exact h.fronts entry hentry

/-- The blocks of a text are the tables, and what stands between them are line breaks. -/
theorem cutAt_blocksText {block : List (List Char)}
    (htables : ∀ table ∈ tables, table.Legible dialect) (hblock : ∀ line ∈ block, line ≠ [])
    (hopen : '\x7b' ∉ joinWith ['\n', '\n'] block) {previous : Option Char}
    (hprevious : isBoundary previous = true) :
    CutAt dialect tables (joinWith ['\n', '\n'] block)
      (Occurrences.find takeBlock? previous (blocksText tables block)) := by
  have hnone : IsGap [] := fun c hc => absurd hc List.not_mem_nil
  induction tables generalizing previous with
  | nil =>
      rw [blocksText_nil, find_takeBlock?_of_not_mem hopen]
      exact ⟨rfl, by simp, [], hnone, rfl⟩
  | cons table tables ih =>
      have htable := htables table List.mem_cons_self
      have hmore := fun other hother => htables other (List.mem_cons_of_mem _ hother)
      have htake := fun rest => takeBlock?_tableText htable hprevious rest
      rcases blocksText_cons table tables hblock with ⟨rfl, rfl, htext⟩ | ⟨-, htext⟩
      · rw [htext, Occurrences.find_append_of_some (tableText_ne_nil table) (htake []),
          Occurrences.find_nil]
        exact CutAt.table ⟨rfl, by simp, [], hnone, rfl⟩ (declare_block htable _)
      · rw [htext, Occurrences.find_append_of_some (tableText_ne_nil table) (htake _),
          Occurrences.find_cons_of_none (takeBlock?_feed _ _),
          Occurrences.find_cons_of_none (takeBlock?_feed _ _)]
        exact (ih hmore rfl).feed.feed.table (declare_block htable _)

/-! ## Relationships between the blocks -/

/-- Line breaks in front of a text declare nothing. -/
theorem relationshipsOfPiece_gap {gap : List Char} (hgap : IsGap gap) {text : List Char}
    {found : List RelationshipDeclaration}
    (h : ∀ previous, isBoundary previous = true →
      (Occurrences.find takeRelationship? previous text).items.map
        RelationshipStatement.declare = found) :
    relationshipsOfPiece (gap ++ text) = found := by
  have hfind : ∀ previous, isBoundary previous = true →
      (Occurrences.find takeRelationship? previous (gap ++ text)).items.map
        RelationshipStatement.declare = found := by
    induction gap with
    | nil => exact h
    | cons c gap ih =>
        intro previous _
        obtain rfl := hgap c List.mem_cons_self
        rw [List.cons_append, Occurrences.find_cons_of_none (takeRelationship?_feed _ _),
          Occurrences.items_plain]
        exact ih (fun d hd => hgap d (List.mem_cons_of_mem _ hd)) (some '\n') rfl
  exact hfind none rfl

theorem relationshipsOfPiece_of_isGap {gap : List Char} (hgap : IsGap gap) :
    relationshipsOfPiece gap = [] := by
  have hpiece : relationshipsOfPiece (gap ++ []) = [] := by
    apply relationshipsOfPiece_gap hgap
    intro previous _
    rw [Occurrences.find_nil]
    rfl
  rwa [List.append_nil] at hpiece

theorem Legible.not_mem_relationshipBlock {relationships : List Relationship}
    (h : Legible dialect tables relationships) :
    '\x7b' ∉ joinWith ['\n', '\n'] (relationshipBlock tables relationships) := by
  rw [joinWith_relationshipBlock]
  intro hmem
  rcases mem_joinWith hmem with hfeed | ⟨line, hline, hmem⟩
  · revert hfeed
    decide
  · exact (h.quiet_lines line hline).1.not_mem (by decide) hmem

/-- The text of a model is cut at its tables. -/
theorem cutAt_generate {relationships : List Relationship}
    (h : Legible dialect tables relationships) :
    CutAt dialect tables (joinWith ['\n', '\n'] (relationshipBlock tables relationships))
      (blocks (stripComments (generate tables relationships).toList)) := by
  rw [generate, String.toList_ofList, stripComments_generateChars h, generateChars_eq, blocks,
    Occurrences.ofText]
  exact cutAt_blocksText h.tables h.block_ne_nil h.not_mem_relationshipBlock rfl

/-- Reading the text of a model gives one table for each table, in order. -/
theorem Legible.tables_parse_generate {relationships : List Relationship}
    (h : Legible dialect tables relationships) :
    (parse dialect (generate tables relationships)).tables = tables.map Table.declared :=
  (cutAt_generate h).declared

/-- Reading the text of a model gives one relationship for each relationship whose ends refer to
something, in order. -/
theorem Legible.relationships_parse_generate {relationships : List Relationship}
    (h : Legible dialect tables relationships) :
    (parse dialect (generate tables relationships)).relationships =
      relationships.filterMap (Relationship.declared? tables) := by
  obtain ⟨-, hfronts, gap, hgap, htail⟩ := cutAt_generate h
  have hpiece : relationshipsOfPiece (gap ++
      joinWith ['\n', '\n'] (relationshipBlock tables relationships)) =
        relationships.filterMap (Relationship.declared? tables) := by
    apply relationshipsOfPiece_gap hgap
    intro previous hprevious
    rw [joinWith_relationshipBlock]
    exact items_relationshipLines h.words h.relationships hprevious
  rw [parse, parsePlain]
  generalize blocks (stripComments (generate tables relationships).toList) = cut
    at hfronts htail
  have hfrontPieces : (cut.found.map Prod.fst).flatMap relationshipsOfPiece = [] := by
    rw [List.flatMap_eq_nil_iff]
    intro front hfront
    obtain ⟨entry, hentry, rfl⟩ := List.mem_map.mp hfront
    exact relationshipsOfPiece_of_isGap (hfronts entry hentry)
  simp only [Occurrences.pieces, List.flatMap_append, hfrontPieces, htail,
    List.flatMap_singleton, hpiece, List.nil_append]

theorem tables_parse_generate {relationships : List Relationship}
    (h : Writable dialect tables relationships) :
    (parse dialect (generate tables relationships)).tables = tables.map Table.declared :=
  h.legible.tables_parse_generate

theorem relationships_parse_generate {relationships : List Relationship}
    (h : Writable dialect tables relationships) :
    (parse dialect (generate tables relationships)).relationships =
      relationships.filterMap (Relationship.declared? tables) :=
  h.legible.relationships_parse_generate

/-- Reading the text of a model gives what the model declares: one table for each table, and one
relationship for each relationship whose ends refer to something, all in order. -/
theorem parse_generate (dialect : Dialect) (tables : List (Table κ))
    (relationships : List Relationship) (h : Writable dialect tables relationships) :
    parse dialect (generate tables relationships) =
      ⟨tables.map Table.declared, relationships.filterMap (Relationship.declared? tables)⟩ := by
  calc
    parse dialect (generate tables relationships)
        = ⟨(parse dialect (generate tables relationships)).tables,
            (parse dialect (generate tables relationships)).relationships⟩ := rfl
    _ = ⟨tables.map Table.declared,
          relationships.filterMap (Relationship.declared? tables)⟩ := by
          rw [tables_parse_generate h, relationships_parse_generate h]

end

/-! ## Awkward texts -/

def awkwardKey : Field :=
  (Field.new ⟨⟨1⟩, ⟨0, 0⟩, ""⟩ "id" ⟨"bigint", "bigint"⟩).asPrimaryKey

/-- A field with arguments in its type and with a note full of marks. -/
def awkwardTotal : Field :=
  (Field.new ⟨⟨2⟩, ⟨0, 0⟩, ""⟩ "total" ⟨"decimal", "decimal(10, 2)"⟩).withComment
    "it's \x7b Table x // [\n"

/-- A table whose note and whose index look like schema text. -/
def awkwardTable : Table Int :=
  { Table.new ⟨⟨3⟩, ⟨0, 0⟩, ""⟩ "orders" 0 0 with
    comment := some "Rel \\ Indexes \x7b"
    fields := [awkwardKey, awkwardTotal]
    indexes := [Index.new ⟨⟨4⟩, ⟨0, 0⟩, ""⟩ "by 'total' \x7d" [⟨2⟩, ⟨7⟩]] }

/-- A relationship of the table with itself. -/
def awkwardLink : Relationship :=
  Relationship.new ⟨⟨5⟩, ⟨0, 0⟩, ""⟩ "Rel" (Endpoint.new ⟨3⟩ ⟨2⟩) (Endpoint.new ⟨3⟩ ⟨1⟩)

theorem writable_awkward : Writable .generic [awkwardTable] [awkwardLink] := by
  refine ⟨?_, ?_⟩
  · intro table htable
    obtain rfl := List.mem_singleton.mp htable
    refine ⟨by decide, ?_⟩
    intro field hfield
    rcases List.mem_cons.mp hfield with rfl | hfield
    · exact ⟨by decide,
        DataType.writable_of_slashless (by decide +kernel) (by decide) (by decide)⟩
    · obtain rfl := List.mem_singleton.mp hfield
      exact ⟨by decide,
        DataType.writable_of_slashless (by decide +kernel) (by decide) (by decide)⟩
  · intro relationship hrelationship
    obtain rfl := List.mem_singleton.mp hrelationship
    decide

theorem parse_generate_awkward :
    parse .generic (generate [awkwardTable] [awkwardLink]) =
      ⟨[awkwardTable].map Table.declared,
        [awkwardLink].filterMap (Relationship.declared? [awkwardTable])⟩ :=
  parse_generate .generic [awkwardTable] [awkwardLink] writable_awkward

end SchemaDiagram.SchemaText
