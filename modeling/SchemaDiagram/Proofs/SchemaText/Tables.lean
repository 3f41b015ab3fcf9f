import SchemaDiagram.Proofs.SchemaText.Blocks
import SchemaDiagram.Proofs.SchemaText.Indexes

/-!
# Table blocks are read back

The body of a table is a list of inert lines, which declare the note and the fields, and an index
block behind them.  The body is cut at the head of the index block and nowhere else, the brace of
the table is closed at its end, and what is declared is the table again, up to its identifiers and
its place on the canvas.
-/

namespace SchemaDiagram

open SchemaDiagram.Text

variable {κ : Type}

/-- A table whose block can be read back. -/
structure Table.Writable (dialect : Dialect) (table : Table κ) : Prop where
  name : isWord table.name.toList = true
  fields : ∀ field ∈ table.fields, field.Writable dialect

/-- A table that its block declares again. -/
structure Table.Legible (dialect : Dialect) (table : Table κ) : Prop where
  name : isWord table.name.toList = true
  fields : ∀ field ∈ table.fields, field.Legible dialect

theorem Table.Writable.legible {dialect : Dialect} {table : Table κ} (h : table.Writable dialect) :
    table.Legible dialect :=
  ⟨h.name, fun field hfield => (h.fields field hfield).legible⟩

/-- A table as its block declares it.  Indexes that back a primary key are not declared. -/
def Table.declared (table : Table κ) : TableDeclaration where
  name := table.name
  comment := table.comment
  fields := table.fields.map Field.declared
  indexes :=
    (table.indexes.filter fun index => !index.isPrimaryKey).filterMap (Index.declared? table)
  contentHash := ContentHash.ofTable table
  existingId := none

namespace SchemaText

/-! ## The lines of a body -/

/-- The lines of a table's body in front of its index block. -/
def bodyLines (table : Table κ) : List (List Char) :=
  (table.comment.map fun comment => '\t' :: quotedTag "Note" comment).toList ++
    table.fields.map fun field => '\t' :: fieldLine field

/-- Lines with their line breaks. -/
def broken (lines : List (List Char)) : List Char :=
  lines.flatMap (· ++ ['\n'])

theorem broken_nil : broken [] = [] := rfl

theorem broken_cons (line : List Char) (lines : List (List Char)) :
    broken (line :: lines) = line ++ '\n' :: broken lines := by
  simp [broken]

theorem broken_append (lines more : List (List Char)) :
    broken (lines ++ more) = broken lines ++ broken more := by
  simp [broken]

theorem tableBody_eq (table : Table κ) :
    tableBody table = '\n' :: (broken (bodyLines table) ++ indexBlock (indexLines table)) := by
  have hnote : ((table.comment.map fun comment =>
        indented 1 (quotedTag "Note" comment)).getD []) =
      broken (table.comment.map fun comment => '\t' :: quotedTag "Note" comment).toList := by
    cases table.comment with
    | none => rfl
    | some comment => simp [broken, indented]
  have hfields : table.fields.flatMap (fun field => indented 1 (fieldLine field)) =
      broken (table.fields.map fun field => '\t' :: fieldLine field) := by
    rw [broken, List.flatMap_map]
    rfl
  rw [tableBody, hnote, hfields, bodyLines, broken_append]

theorem note_eq (comment : String) :
    '\t' :: quotedTag "Note" comment = '\t' :: (word "Note: " ++ quote comment.toList) := by
  simp [quotedTag, word]

/-- The lines of a body are inert, and each of them starts with a tab and a word. -/
theorem bodyLines_inert {dialect : Dialect} {table : Table κ} (h : table.Legible dialect) :
    ∀ line ∈ bodyLines table, Inert line ∧
      ∃ c rest, line = '\t' :: c :: rest ∧ isWordChar c = true := by
  intro line hline
  rcases List.mem_append.mp hline with hnote | hfield
  · obtain ⟨comment, -, rfl⟩ := Option.map_eq_some_iff.mp (Option.mem_toList.mp hnote)
    rw [note_eq]
    exact ⟨inert_note comment.toList, 'N', _, rfl, by decide⟩
  · obtain ⟨field, hmem, rfl⟩ := List.mem_map.mp hfield
    have hwritable := h.fields field hmem
    obtain ⟨c, rest, hname, hc⟩ := exists_of_isWord hwritable.name
    refine ⟨inert_fieldLine hwritable, c,
      rest ++ ' ' :: (field.dataType.name.toList ++ bracketed (fieldTags field)), ?_, hc⟩
    rw [fieldLine_eq, hname, List.cons_append]

/-- What the lines of a body declare. -/
theorem declare_bodyLines {dialect : Dialect} {table : Table κ} (h : table.Legible dialect) :
    ((bodyLines table).filterMap fieldOfLine?).map (FieldStatement.declare dialect) =
        table.fields.map Field.declared ∧
      ((bodyLines table).findSome? noteOfLine?).map (fun note => String.ofList (unescape note)) =
        table.comment := by
  have hfields : ((table.fields.map fun field => '\t' :: fieldLine field).filterMap
      fieldOfLine?).map (FieldStatement.declare dialect) = table.fields.map Field.declared := by
    rw [List.filterMap_map, List.map_filterMap, ← List.filterMap_eq_map]
    apply List.filterMap_congr
    intro field hfield
    exact declare_fieldLine (h.fields field hfield)
  have hnone : (table.fields.map fun field => '\t' :: fieldLine field).findSome? noteOfLine? =
      none := by
    rw [List.findSome?_eq_none_iff]
    intro line hline
    obtain ⟨field, hmem, rfl⟩ := List.mem_map.mp hline
    exact noteOfLine?_fieldLine (h.fields field hmem)
  rw [bodyLines]
  cases table.comment with
  | none =>
      rw [Option.map_none, Option.toList_none, List.nil_append, hnone]
      exact ⟨hfields, rfl⟩
  | some comment =>
      rw [Option.map_some, Option.toList_some, List.singleton_append, note_eq,
        List.filterMap_cons_none (fieldOfLine?_note _), List.findSome?_cons, noteOfLine?_note]
      exact ⟨hfields, by simp [unescape_quoteChars]⟩

/-! ## Scanning a body -/

theorem ahead_broken {lines : List (List Char)}
    (h : ∀ line ∈ lines, ∃ c rest, line = '\t' :: c :: rest ∧ isWordChar c = true)
    (rest : List Char) (hrest : Ahead rest) : Ahead (broken lines ++ rest) := by
  cases lines with
  | nil => exact hrest
  | cons line lines =>
      obtain ⟨c, more, rfl, hc⟩ := h line List.mem_cons_self
      rw [broken_cons, List.append_assoc, List.cons_append, List.cons_append]
      refine ahead_blank_cons (by decide) ?_
      rw [trimStart_of_head (by simpa using isBlank_of_isWordChar hc)]
      simpa using ne_of_isWordChar hc (by decide)

theorem indexless_broken {lines : List (List Char)}
    (h : ∀ line ∈ lines, Inert line ∧
      ∃ c rest, line = '\t' :: c :: rest ∧ isWordChar c = true) :
    Indexless (broken lines) := by
  induction lines with
  | nil => exact indexless_nil
  | cons line lines ih =>
      have hmore : ∀ other ∈ lines, Inert other ∧
          ∃ c rest, other = '\t' :: c :: rest ∧ isWordChar c = true :=
        fun other hother => h other (List.mem_cons_of_mem _ hother)
      have hfirst := indexless_of_sealed (h line List.mem_cons_self).1.sealed_line
      have hline := hfirst.append (ih hmore)
        (ahead_broken fun other hother => (hmore other hother).2)
      simpa [broken_cons] using hline

theorem balanced_broken {lines : List (List Char)} (h : ∀ line ∈ lines, Inert line) :
    Balanced (broken lines) := by
  induction lines with
  | nil => exact balanced_nil
  | cons line lines ih =>
      have hfirst := balanced_of_sealed (h line List.mem_cons_self).sealed_line
      have hline := hfirst.append (ih fun other hother => h other (List.mem_cons_of_mem _ hother))
      simpa [broken_cons] using hline

/-- The lines in front of an index block, the first of them empty. -/
theorem indexless_front {dialect : Dialect} {table : Table κ} (h : table.Legible dialect) :
    Indexless ('\n' :: broken (bodyLines table)) := by
  have hlines := bodyLines_inert h
  exact (indexless_of_sealed sealed_feed).append (indexless_broken hlines)
    (ahead_broken fun line hline => (hlines line hline).2)

/-- The lines of an index block with their indentation. -/
def indexedLines (entries : List (List Char)) : List (List Char) :=
  entries.map fun entry => '\t' :: '\t' :: entry

theorem flatMap_indented (entries : List (List Char)) :
    entries.flatMap (indented 2) = broken (indexedLines entries) := by
  rw [broken, indexedLines, List.flatMap_map]
  rfl

theorem indexLines_inert {dialect : Dialect} {table : Table κ} (h : table.Legible dialect) :
    ∀ line ∈ indexedLines (indexLines table), Inert line := by
  intro line hline
  obtain ⟨entry, hentry, rfl⟩ := List.mem_map.mp hline
  obtain ⟨index, -, hindex⟩ := List.mem_filterMap.mp hentry
  rw [indexLine?_eq] at hindex
  split at hindex
  · cases hindex
  · obtain rfl := Option.some.inj hindex
    exact inert_indexText index
      (isWord_indexFields (fun field hfield => (h.fields field hfield).name) index)

/-- What stands between the braces of an index block. -/
def indexBody (entries : List (List Char)) : List Char :=
  '\n' :: (broken (indexedLines entries) ++ ['\t'])

theorem indexBlock_eq {entries : List (List Char)} (h : entries ≠ []) :
    indexBlock entries =
      '\t' :: (indexesKeyword ++
        ' ' :: '\x7b' :: (indexBody entries ++ '\x7d' :: ['\n'])) := by
  have hempty : entries.isEmpty = false := by simpa using h
  simp [indexBlock, hempty, indented, word, indexesKeyword, indexBody, flatMap_indented]

theorem balanced_indexBody {entries : List (List Char)}
    (h : ∀ line ∈ indexedLines entries, Inert line) : Balanced (indexBody entries) := by
  have hfeed : Balanced ['\n'] := balanced_of_sealed sealed_feed
  have htab : Balanced ['\t'] := balanced_of_sealed (by decide)
  exact hfeed.append ((balanced_broken h).append htab)

theorem balanced_tableBody {dialect : Dialect} {table : Table κ} (h : table.Legible dialect) :
    Balanced (tableBody table) := by
  have hfeed : Balanced ['\n'] := balanced_of_sealed sealed_feed
  have hlines := balanced_broken fun line hline => (bodyLines_inert h line hline).1
  have hblock : Balanced (indexBlock (indexLines table)) := by
    by_cases hentries : indexLines table = []
    · rw [hentries]
      exact balanced_nil
    · have hhead : Balanced ('\t' :: (indexesKeyword ++ [' '])) := by
        have hquiet : Quiet ('\t' :: (indexesKeyword ++ [' '])) := quiet_of_all (by decide)
        exact balanced_of_sealed hquiet.sealed
      have hbraces := (balanced_indexBody (indexLines_inert h)).braces
      have hall := (hhead.append hbraces).append hfeed
      rw [indexBlock_eq hentries]
      simpa using hall
  rw [tableBody_eq]
  exact hfeed.append (hlines.append hblock)

/-! ## Cutting a body -/

theorem splitAt_broken {lines : List (List Char)} (h : ∀ line ∈ lines, '\n' ∉ line)
    {last : List Char} (hlast : '\n' ∉ last) :
    splitAt '\n' (broken lines ++ last) = lines ++ [last] := by
  induction lines with
  | nil => exact splitAt_of_not_mem hlast
  | cons line lines ih =>
      rw [broken_cons, List.append_assoc, List.cons_append,
        splitAt_append_cons (h line List.mem_cons_self),
        ih fun other hother => h other (List.mem_cons_of_mem _ hother), List.cons_append]

/-- The head of an index block is found behind its tab. -/
theorem splitAtIndexes?_head (previous : Option Char) (opened : List Char) :
    splitAtIndexes? .outside previous ('\t' :: (indexesKeyword ++ ' ' :: '\x7b' :: opened)) =
      some (['\t'], '\x7b' :: opened) := by
  have htab : takeIndexesHead? ('\t' :: (indexesKeyword ++ ' ' :: '\x7b' :: opened)) = none := rfl
  have hhead : takeIndexesHead? (indexesKeyword ++ ' ' :: '\x7b' :: opened) =
      some ('\x7b' :: opened) := rfl
  have hkeyword : splitAtIndexes? .outside (some '\t')
      (indexesKeyword ++ ' ' :: '\x7b' :: opened) = some ([], '\x7b' :: opened) := by
    rw [indexesKeyword, List.cons_append] at hhead ⊢
    rw [splitAtIndexes?, hhead]
    rfl
  have hstep := step_outside_plain (by decide : isQuote '\t' = false)
  rw [splitAtIndexes?, htab, hstep]
  simp only [hkeyword, ite_self, Option.map_some]

theorem declared_eq_nil {table : Table κ} (h : indexLines table = []) :
    (table.indexes.filter fun index => !index.isPrimaryKey).filterMap
      (Index.declared? table) = [] := by
  rw [indexLines, List.filterMap_eq_nil_iff] at h
  rw [List.filterMap_eq_nil_iff]
  intro index hindex
  have hline := h index hindex
  rw [indexLine?_eq] at hline
  cases hempty : (indexFields table index).isEmpty with
  | true => simp [Index.declared?, hempty]
  | false => simp [hempty] at hline

/-- The part of a body that declares fields ends at the index block, if there is one. -/
theorem splitBody_tableBody {dialect : Dialect} {table : Table κ} (h : table.Legible dialect) :
    ∃ last, '\n' ∉ last ∧ fieldOfLine? last = none ∧ noteOfLine? last = none ∧
      (splitBody (tableBody table)).1 = '\n' :: (broken (bodyLines table) ++ last) ∧
      ((splitBody (tableBody table)).2.map indexesOfBody).getD [] =
        (table.indexes.filter fun index => !index.isPrimaryKey).filterMap
          (Index.declared? table) := by
  have hfront := indexless_front h
  by_cases hentries : indexLines table = []
  · obtain ⟨last, hsplit⟩ := hfront none [] ⟨rfl, by decide⟩
    have hnone : splitAtIndexes? .outside none (tableBody table) = none := by
      rw [tableBody_eq, hentries]
      simpa [indexBlock, splitAtIndexes?] using hsplit
    refine ⟨[], List.not_mem_nil, rfl, rfl, ?_, ?_⟩
    · rw [splitBody, hnone, tableBody_eq, hentries]
      rfl
    · rw [splitBody, hnone, declared_eq_nil hentries]
      rfl
  · have hahead : Ahead ('\t' :: (indexesKeyword ++
        ' ' :: '\x7b' :: (indexBody (indexLines table) ++ '\x7d' :: ['\n']))) :=
      ahead_blank_cons (by decide) (by
        rw [indexesKeyword, List.cons_append, trimStart_of_head rfl]
        simp)
    obtain ⟨last, hsplit⟩ := hfront none _ hahead
    rw [splitAtIndexes?_head, Option.map_some] at hsplit
    have hbody : tableBody table = '\n' :: broken (bodyLines table) ++
        '\t' :: (indexesKeyword ++
          ' ' :: '\x7b' :: (indexBody (indexLines table) ++ '\x7d' :: ['\n'])) := by
      rw [tableBody_eq, indexBlock_eq hentries, List.cons_append]
    have hinner : blockBody ('\x7b' :: (indexBody (indexLines table) ++ '\x7d' :: ['\n'])) =
        indexBody (indexLines table) := by
      rw [blockBody, (balanced_indexBody (indexLines_inert h)).closingBrace?, Option.getD_some]
      simp
    have hindexes : indexesOfBody (indexBody (indexLines table)) =
        (table.indexes.filter fun index => !index.isPrimaryKey).filterMap
          (Index.declared? table) := by
      rw [indexBody, ← flatMap_indented]
      exact items_indexLines (fun field hfield => (h.fields field hfield).name) none
    refine ⟨['\t'], by decide, rfl, rfl, ?_, ?_⟩
    · rw [splitBody, hbody, hsplit]
      simp
    · rw [splitBody, hbody, hsplit]
      dsimp only
      rw [hinner, Option.map_some, Option.getD_some, hindexes]

/-- A table is declared by its block. -/
theorem declare_block {dialect : Dialect} {table : Table κ} (h : table.Legible dialect)
    (text : List Char) :
    Block.declare dialect ⟨table.name.toList, tableBody table, text⟩ = table.declared := by
  obtain ⟨last, hfeed, hfield, hnote, hfront, hindexes⟩ := splitBody_tableBody h
  obtain ⟨hfields, hcomment⟩ := declare_bodyLines h
  have hlines : splitAt '\n' (splitBody (tableBody table)).1 =
      [] :: (bodyLines table ++ [last]) := by
    have hbroken := splitAt_broken
      (fun line hline => (bodyLines_inert h line hline).1.unbroken.1) hfeed
    rw [hfront, splitAt, hbroken]
    rfl
  have hhash : ContentHash.ofFieldNames
      ((table.fields.map Field.declared).map FieldDeclaration.name) =
        ContentHash.ofTable table := by
    rw [List.map_map]
    rfl
  have hempty : fieldOfLine? [] = none := rfl
  have hempty' : noteOfLine? [] = none := rfl
  simp only [Block.declare, hlines, List.filterMap_cons_none hempty, List.filterMap_append,
    List.filterMap_cons_none hfield, List.filterMap_nil, List.append_nil, hfields, hhash, hindexes,
    List.findSome?_cons, hempty', List.findSome?_append, hnote, List.findSome?_nil,
    Option.or_none, hcomment, String.ofList_toList]
  rfl

/-! ## Blocks -/

theorem tableText_eq (table : Table κ) :
    tableText table = tableKeyword ++ ' ' :: (table.name.toList ++
      ' ' :: '\x7b' :: (tableBody table ++ ['\x7d'])) := by
  simp [tableText, word, tableKeyword]

/-- The block of a table is complete. -/
theorem isComplete_tableText {dialect : Dialect} {table : Table κ} (h : table.Legible dialect) :
    (⟨table.name.toList, tableBody table, tableText table⟩ : Block).IsComplete := by
  have hblank : IsBlankText [' '] := fun c hc => by
    rw [List.mem_singleton.mp hc]
    decide
  refine ⟨h.name, ⟨[' '], [' '], List.cons_ne_nil _ _, hblank, hblank, ?_⟩, ?_⟩
  · simp [tableText_eq]
  · exact (balanced_tableBody h).closingBrace? []

/-- The block of a table is taken whole, and nothing behind it. -/
theorem takeBlock?_tableText {dialect : Dialect} {table : Table κ} (h : table.Legible dialect)
    {previous : Option Char} (hprevious : isBoundary previous = true) (rest : List Char) :
    takeBlock? previous (tableText table ++ rest) =
      some (⟨table.name.toList, tableBody table, tableText table⟩, rest) :=
  takeBlock?_eq_some_iff.mpr ⟨hprevious, isComplete_tableText h, rfl⟩

end SchemaText

end SchemaDiagram
