import SchemaDiagram.Proofs.SchemaText.Seams

/-!
# Text below a written text

Whatever is typed below the text of a model, the model is still read as it is, and what is typed is
read as if it stood alone.  The blocks of the model are complete, so that nothing behind them is
looked at.  In the lines of its relationships a table could only start at a word `Table` in front of
a blank, and the only word in front of a blank that is a name is the field at the end of a line.
-/

namespace SchemaDiagram.SchemaText

open SchemaDiagram.Text

variable {κ : Type}

/-! ## Segments in which no table starts -/

/-- No table starts in a segment, whatever stands around it. -/
def Tableless (segment : List Char) : Prop :=
  ∀ previous rest, Occurrences.Skips takeBlock? rest previous segment

theorem Tableless.append {segment more : List Char} (h : Tableless segment)
    (hmore : Tableless more) : Tableless (segment ++ more) := by
  intro previous rest
  exact Occurrences.skips_append (h previous (more ++ rest)) (hmore _ rest)

/-- A table starts at the first letter of its keyword. -/
theorem tableless_of_not_mem {segment : List Char} (h : 'T' ∉ segment) : Tableless segment := by
  intro previous rest
  refine Occurrences.skips_of_suffix (fun last suffix hsuffix hnonempty => ?_) previous
  rw [← Option.not_isSome_iff_eq_none, Option.isSome_iff_exists]
  rintro ⟨⟨block, after⟩, htake⟩
  obtain ⟨-, hcomplete, htext⟩ := takeBlock?_eq_some_iff.mp htake
  obtain ⟨gap, space, -, -, -, hblock⟩ := hcomplete.text
  obtain ⟨c, suffix, rfl⟩ := List.exists_cons_of_ne_nil hnonempty
  rw [hblock, tableKeyword, List.cons_append] at htext
  obtain rfl := (List.cons.inj htext).1
  exact h (hsuffix.mem List.mem_cons_self)

/-- No table starts within a word. -/
theorem skips_within_word {c : Char} {text : List Char} (hc : isWordChar c = true)
    (h : ∀ d ∈ text, isWordChar d = true) (rest : List Char) :
    Occurrences.Skips takeBlock? rest (some c) text := by
  induction text generalizing c with
  | nil => trivial
  | cons d text ih =>
      obtain ⟨hd, hmore⟩ := List.forall_mem_cons.mp h
      refine ⟨?_, ih hd hmore⟩
      have hboundary : isBoundary (some c) = false := by simp [isBoundary, hc]
      simp only [takeBlock?, hboundary]
      rfl

/-- No table starts at a word other than the keyword, nor at one without a blank behind it. -/
theorem tableless_word {text : List Char} {mark : Char} (h : isWord text = true)
    (hmark : isWordChar mark = false) (hname : isBlank mark = true → text ≠ tableKeyword) :
    Tableless (text ++ [mark]) := by
  intro previous rest
  have hend : Tableless [mark] := by
    apply tableless_of_not_mem
    rw [List.mem_singleton]
    rintro rfl
    exact absurd hmark (by decide)
  refine Occurrences.skips_append ?_ (hend _ rest)
  have htaken : takeWord? (text ++ mark :: rest) = some (text, mark :: rest) :=
    takeWord?_append h (by simpa using hmark)
  have hnone : takeBlock? previous (text ++ mark :: rest) = none := by
    rw [← Option.not_isSome_iff_eq_none, Option.isSome_iff_exists]
    rintro ⟨⟨block, after⟩, htake⟩
    obtain ⟨-, hcomplete, htext⟩ := takeBlock?_eq_some_iff.mp htake
    obtain ⟨gap, space, hgap, hblank, -, hblock⟩ := hcomplete.text
    obtain ⟨blank, gap, rfl⟩ := List.exists_cons_of_ne_nil hgap
    have hfirst : isBlank blank = true := hblank blank List.mem_cons_self
    rw [hblock, List.append_assoc, List.cons_append, List.cons_append] at htext
    rw [htext, takeWord?_append (by decide)
      (by simpa using isWordChar_of_isBlank hfirst)] at htaken
    obtain ⟨hkeyword, hbehind⟩ := Prod.mk.inj (Option.some.inj htaken)
    obtain rfl := (List.cons.inj hbehind).1
    exact hname hfirst hkeyword.symm
  obtain ⟨c, word, rfl, hc⟩ := exists_of_isWord h
  exact ⟨hnone, skips_within_word hc
    (fun d hd => (isWord_iff.mp h).2 d (List.mem_cons_of_mem c hd)) _⟩

/-! ## Lines of relationships -/

/-- The names of ends are the name of a table and the name of one of its fields. -/
theorem exists_of_endNames? {tables : List (Table κ)} {endpoint : Endpoint}
    {names : String × String} (h : ContentHash.endNames? tables endpoint = some names) :
    ∃ table ∈ tables, ∃ field ∈ table.fields, names = (table.name, field.name) := by
  obtain ⟨table, htable, hfield⟩ := Option.bind_eq_some_iff.mp h
  obtain ⟨field, hfind, hpure⟩ := Option.bind_eq_some_iff.mp hfield
  exact ⟨table, List.mem_of_find?_eq_some htable, field, List.mem_of_find?_eq_some hfind,
    (Option.some.inj hpure).symm⟩

/-- No table starts in the line of a relationship to a field with another name than `Table`. -/
theorem tableless_relationshipText {relationship : Relationship} {source target : String × String}
    (hname : isWord relationship.name.toList = true) (hsource : AreWords source)
    (htarget : AreWords target) (hfield : target.2 ≠ "Table") :
    Tableless (relationshipText relationship source target ++ ['\n']) := by
  have hmark : ∀ cardinality : Cardinality,
      Tableless (' ' :: (cardinality.mark.toList ++ [' '])) := by
    intro cardinality
    apply tableless_of_not_mem
    cases cardinality <;> decide
  have hword : ∀ {text : List Char} {c : Char}, isWord text = true → c ∈ [':', '.', ','] →
      Tableless (text ++ [c]) := by
    intro text c h hc
    have hplain : isWordChar c = false ∧ isBlank c = false := by
      simp only [List.mem_cons, List.not_mem_nil, or_false] at hc
      rcases hc with rfl | rfl | rfl <;> decide
    exact tableless_word h hplain.1 fun hblank => by rw [hplain.2] at hblank; cases hblank
  have hkeyword : Tableless (relationshipKeyword ++ [' ']) := tableless_of_not_mem (by decide)
  have hlast : Tableless (target.2.toList ++ ['\n']) := by
    refine tableless_word htarget.2 (by decide) fun _ heq => hfield ?_
    exact String.toList_inj.mp heq
  have hline := (hkeyword.append (hword hname (c := ':') (by decide))).append
    (((hmark relationship.sourceCardinality).append ((hword hsource.1 (c := '.') (by decide)).append
      (hword hsource.2 (c := ',') (by decide)))).append
        ((hmark relationship.targetCardinality).append
          ((hword htarget.1 (c := '.') (by decide)).append hlast)))
  simpa [relationshipText] using hline

theorem tableless_joinWith {lines : List (List Char)}
    (h : ∀ line ∈ lines, Tableless (line ++ ['\n'])) :
    Tableless (joinWith ['\n'] lines ++ ['\n']) := by
  induction lines with
  | nil => exact tableless_of_not_mem (by decide)
  | cons line lines ih =>
      obtain ⟨hline, hmore⟩ := List.forall_mem_cons.mp h
      by_cases hnone : lines = []
      · rwa [hnone, joinWith_singleton]
      · rw [joinWith_cons _ _ hnone]
        have hall := hline.append (ih hmore)
        simpa using hall

section

variable {dialect : Dialect} {tables : List (Table κ)} {relationships : List Relationship}

/-- No table starts behind the blocks of the tables. -/
theorem Legible.tableless (h : Legible dialect tables relationships)
    (hfields : ∀ table ∈ tables, ∀ field ∈ table.fields, field.name ≠ "Table") :
    Tableless (joinWith ['\n', '\n'] (relationshipBlock tables relationships) ++ ['\n']) := by
  rw [joinWith_relationshipBlock]
  apply tableless_joinWith
  intro line hline
  obtain ⟨relationship, hmem, hsome⟩ := List.mem_filterMap.mp hline
  rw [relationshipLine?_eq] at hsome
  obtain ⟨source, hsource, htext⟩ := Option.bind_eq_some_iff.mp hsome
  obtain ⟨target, htarget, rfl⟩ := Option.map_eq_some_iff.mp htext
  obtain ⟨table, htable, field, hfield, rfl⟩ := exists_of_endNames? htarget
  exact tableless_relationshipText (h.relationships relationship hmem)
    (areWords_endNames h.words hsource) (areWords_endNames h.words htarget)
    (hfields table htable field hfield)

/-! ## Blocks -/

/-- The blocks in front of a line break are found whatever stands behind it, and what stands there
is searched as if it stood alone. -/
theorem find_blocksText_append {block : List (List Char)}
    (htables : ∀ table ∈ tables, table.Legible dialect) (hblock : ∀ line ∈ block, line ≠ [])
    (hopen : '\x7b' ∉ joinWith ['\n', '\n'] block)
    (hnone : Tableless (joinWith ['\n', '\n'] block ++ ['\n'])) (more : List Char)
    {previous : Option Char} (hprevious : isBoundary previous = true) :
    Occurrences.find takeBlock? previous (blocksText tables block ++ '\n' :: more) =
      (Occurrences.find takeBlock? previous (blocksText tables block)).append
        (Occurrences.plain '\n' (Occurrences.find takeBlock? (some '\n') more)) := by
  induction tables generalizing previous with
  | nil =>
      have hline := Occurrences.find_append_of_skips (hnone previous more)
      have hlast : Occurrences.lastOf previous (joinWith ['\n', '\n'] block ++ ['\n']) =
          some '\n' := by
        rw [Occurrences.lastOf, List.getLast?_concat, Option.some_or]
      rw [hlast, List.append_assoc, List.singleton_append] at hline
      rw [blocksText_nil, find_takeBlock?_of_not_mem hopen, Occurrences.append_of_none, hline,
        Occurrences.behind_append]
      rfl
  | cons table tables ih =>
      have htable := htables table List.mem_cons_self
      have hmore := fun other hother => htables other (List.mem_cons_of_mem _ hother)
      have htake := fun rest => takeBlock?_tableText htable hprevious rest
      have hfind := fun rest =>
        Occurrences.find_append_of_some (tableText_ne_nil table) (htake rest)
      rcases blocksText_cons table tables hblock with ⟨rfl, rfl, htext⟩ | ⟨-, htext⟩
      · have hfeed := Occurrences.find_cons_of_none
          (takeBlock?_feed (Occurrences.lastOf previous (tableText table)) more)
        rw [htext, List.append_assoc, hfind, hfind, Occurrences.item_append, List.nil_append,
          hfeed, Occurrences.find_nil]
        rfl
      · rw [htext, List.append_assoc, hfind, hfind, Occurrences.item_append, List.cons_append,
          List.cons_append]
        simp only [Occurrences.find_cons_of_none (takeBlock?_feed _ _), Occurrences.plain_append]
        rw [ih hmore rfl]

theorem Legible.blocks_append (h : Legible dialect tables relationships)
    (hfields : ∀ table ∈ tables, ∀ field ∈ table.fields, field.name ≠ "Table")
    (more : List Char) :
    blocks (generateChars tables relationships ++ '\n' :: more) =
      (blocks (generateChars tables relationships)).append
        (Occurrences.plain '\n' (blocks more)) := by
  have hboundary : takeBlock? (some '\n') = takeBlock? none := rfl
  have hstart : isBoundary none = true := rfl
  have hfind := find_blocksText_append h.tables h.block_ne_nil h.not_mem_relationshipBlock
    (h.tableless hfields) more hstart
  rw [Occurrences.find_congr hboundary] at hfind
  exact hfind

/-! ## The end of a written text -/

/-- The last line of a text is not empty and does not end in a carriage return. -/
def EndsInLine (text : List Char) : Prop :=
  ∃ c, text.getLast? = some c ∧ c ≠ '\n' ∧ c ≠ '\r'

theorem EndsInLine.append {text : List Char} (h : EndsInLine text) (front : List Char) :
    EndsInLine (front ++ text) := by
  obtain ⟨c, hlast, hbreak⟩ := h
  exact ⟨c, by rw [List.getLast?_append, hlast, Option.some_or], hbreak⟩

theorem endsInLine_joinWith {separator : List Char} {parts : List (List Char)}
    (hparts : parts ≠ []) (h : ∀ part ∈ parts, EndsInLine part) :
    EndsInLine (joinWith separator parts) := by
  induction parts with
  | nil => exact absurd rfl hparts
  | cons part parts ih =>
      obtain ⟨hpart, hmore⟩ := List.forall_mem_cons.mp h
      by_cases hnone : parts = []
      · rwa [hnone, joinWith_singleton]
      · rw [joinWith_cons _ _ hnone]
        exact ((ih hnone hmore).append separator).append part

theorem endsInLine_of_quiet {line : List Char} (h : Quiet line) (hnonempty : line ≠ []) :
    EndsInLine line := by
  obtain ⟨front, c, rfl⟩ := (List.eq_nil_or_concat' line).resolve_left hnonempty
  have hmem : c ∈ front ++ [c] := by simp
  refine ⟨c, List.getLast?_concat, ?_, ?_⟩
  · rintro rfl
    exact h.not_mem (by decide) hmem
  · rintro rfl
    exact h.not_mem (by decide) hmem

theorem endsInLine_tableText (table : Table κ) : EndsInLine (tableText table) := by
  have hbrace : EndsInLine ['\x7d'] := ⟨'\x7d', rfl, by decide, by decide⟩
  exact hbrace.append _

/-- A written text that is not empty ends in a brace or in the name of a field. -/
theorem Legible.endsInLine (h : Legible dialect tables relationships)
    (hnonempty : generateChars tables relationships ≠ []) :
    EndsInLine (generateChars tables relationships) := by
  have hparts : tables.map tableText ++ relationshipBlock tables relationships ≠ [] := by
    intro hnone
    rw [generateChars, hnone] at hnonempty
    exact hnonempty rfl
  refine endsInLine_joinWith hparts fun part hpart => ?_
  rcases List.mem_append.mp hpart with htable | hlines
  · obtain ⟨table, -, rfl⟩ := List.mem_map.mp htable
    exact endsInLine_tableText table
  · rw [relationshipBlock] at hlines
    split at hlines
    · exact absurd hlines List.not_mem_nil
    · next hsome =>
        obtain rfl := List.mem_singleton.mp hlines
        refine endsInLine_joinWith (by simpa using hsome) fun line hline => ?_
        obtain ⟨hquiet, hline⟩ := h.quiet_lines line hline
        exact endsInLine_of_quiet hquiet hline

/-- A written text is not cut at comments, whatever follows its last line. -/
theorem Legible.cutLines_generateChars (h : Legible dialect tables relationships) :
    cutLines (generateChars tables relationships) = generateChars tables relationships := by
  by_cases hnone : generateChars tables relationships = []
  · rw [hnone]
    rfl
  · obtain ⟨c, hlast, hfeed, hreturn⟩ := h.endsInLine hnone
    rw [← stripComments_eq_cutLines hlast hfeed hreturn, stripComments_generateChars h]

end

/-! ## What is read -/

/-- Text below the text of a model is read as if it stood alone, whatever it is, and the model is
read as if nothing stood below it. -/
theorem parse_generate_append (dialect : Dialect) (tables : List (Table κ))
    (relationships : List Relationship) (h : Writable dialect tables relationships)
    (hfields : ∀ table ∈ tables, ∀ field ∈ table.fields, field.name ≠ "Table")
    (more : String) :
    parse dialect (generate tables relationships ++ "\n" ++ more) =
      ⟨(parse dialect (generate tables relationships)).tables ++ (parse dialect more).tables,
        (parse dialect (generate tables relationships)).relationships ++
          (parse dialect more).relationships⟩ := by
  have hwritten : stripComments (generate tables relationships).toList =
      generateChars tables relationships := by
    rw [generate, String.toList_ofList, stripComments_generateChars h.legible]
  have htext : (generate tables relationships ++ "\n" ++ more).toList =
      generateChars tables relationships ++ '\n' :: more.toList := by
    simp [generate, String.toList_append]
  by_cases hnone : more.toList = []
  · rw [parse, parse, parse, htext, hwritten, hnone, stripComments_feed_nil,
      h.legible.cutLines_generateChars]
    have hempty : parsePlain dialect (stripComments []) = ⟨[], []⟩ := parsePlain_nil dialect
    rw [hempty, List.append_nil, List.append_nil]
  · rw [parse, parse, parse, htext, hwritten, stripComments_feed _ hnone,
      h.legible.cutLines_generateChars]
    exact parsePlain_feed dialect (h.legible.blocks_append hfields _)

/-- Text that was left behind in the middle of a table, with an open brace and an open quote. -/
def halfTyped : String :=
  "\x7d Rel 'it: N orders.id, 1\nTable Table \x7b\n\tid int [note: 'Table x \x7b"

theorem parse_generate_append_halfTyped :
    parse .generic (generate [awkwardTable] [awkwardLink] ++ "\n" ++ halfTyped) =
      ⟨(parse .generic (generate [awkwardTable] [awkwardLink])).tables ++
          (parse .generic halfTyped).tables,
        (parse .generic (generate [awkwardTable] [awkwardLink])).relationships ++
          (parse .generic halfTyped).relationships⟩ :=
  parse_generate_append .generic [awkwardTable] [awkwardLink] writable_awkward
    (by decide) halfTyped

end SchemaDiagram.SchemaText
