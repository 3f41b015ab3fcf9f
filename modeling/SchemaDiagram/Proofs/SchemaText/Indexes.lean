import SchemaDiagram.Proofs.SchemaText.Fields

/-!
# Indexes are read back

The lines of an index block stand one below the other.  Each of them is found at the start of its
line and declares its index: the names of the fields in parentheses, and the tags behind them with
the name of the index in quotes.
-/

namespace SchemaDiagram

open SchemaDiagram.Text

variable {κ : Type}

/-- An index as its line declares it; an index over no field that is left has no line. -/
def Index.declared? (table : Table κ) (index : Index) : Option IndexDeclaration :=
  let fields := SchemaText.indexFields table index
  if fields.isEmpty then none else some ⟨index.name, index.unique, fields⟩

namespace SchemaText

/-! ## One line -/

theorem isWord_indexFields {table : Table κ}
    (h : ∀ field ∈ table.fields, isWord field.name.toList = true) (index : Index) :
    ∀ name ∈ indexFields table index, isWord name.toList = true := by
  intro name hname
  obtain ⟨id, -, hfield⟩ := List.mem_filterMap.mp hname
  obtain ⟨field, hfind, rfl⟩ := Option.map_eq_some_iff.mp hfield
  exact h field (List.mem_of_find?_eq_some hfind)

/-- The text of an index line with the given names. -/
def indexText (names : List String) (index : Index) : List Char :=
  '(' :: (joinWith (word ", ") (names.map String.toList) ++ ')' :: bracketed (indexTags index))

theorem indexLine?_eq (table : Table κ) (index : Index) :
    indexLine? table index =
      if (indexFields table index).isEmpty then none
      else some (indexText (indexFields table index) index) := rfl

/-- A list of words holds word characters, commas and blanks only. -/
theorem not_mem_joinWith {c : Char} (hword : isWordChar c = false) (hsep : c ∉ word ", ")
    {parts : List (List Char)} (h : ∀ part ∈ parts, isWord part = true) :
    c ∉ joinWith (word ", ") parts := by
  intro hmem
  rcases mem_joinWith hmem with hmem | ⟨part, hpart, hmem⟩
  · exact hsep hmem
  · exact not_mem_of_isWord (h part hpart) hword hmem

theorem quiet_joinWith {parts : List (List Char)} (h : ∀ part ∈ parts, isWord part = true) :
    Quiet (joinWith (word ", ") parts) := by
  intro c hc
  rcases mem_joinWith hc with hsep | ⟨part, hpart, hc⟩
  · have hquiet : Quiet (word ", ") := quiet_of_all (by decide)
    exact hquiet c hsep
  · exact quiet_of_isWord (h part hpart) c hc

theorem indexTags_eq (index : Index) :
    indexTags index =
      (if index.unique then [word "unique"] else []) ++ [quotedTag "name" index.name] := rfl

/-- The name of an index and its uniqueness are read back from its tags. -/
theorem extractTag_indexTags (index : Index) :
    ∃ rest, extractTag nameKeyword (joinWith (word ", ") (indexTags index)) =
        (some index.name.toList, rest) ∧
      ((splitAt ',' rest).any fun tag => equalIgnoringCase (trim tag) uniqueTag) =
        index.unique := by
  have htag : quotedTag "name" index.name =
      word "name" ++ ':' :: ' ' :: quote index.name.toList := by
    simp [quotedTag, word]
  rw [indexTags_eq, joinWith_concat, htag]
  cases index.unique with
  | false =>
      exact ⟨_, extractTag_append (by decide) (by decide) (by decide) (by decide) _, by decide⟩
  | true =>
      exact ⟨_, extractTag_append (by decide) (by decide) (by decide) (by decide) _, by decide⟩

theorem indexFieldNames_joinWith {names : List (List Char)}
    (h : ∀ name ∈ names, isWord name = true) :
    indexFieldNames (joinWith (word ", ") names) = names := by
  have hkeep : ∀ parts : List (List Char), (∀ part ∈ parts, isWord part = true) →
      ((parts.map (' ' :: ·)).map trim).filter (fun name => !name.isEmpty) = parts := by
    intro parts hparts
    have htrim : (parts.map (' ' :: ·)).map trim = parts := by
      rw [List.map_map]
      conv => rhs; rw [← List.map_id parts]
      apply List.map_congr_left
      intro part hpart
      simp only [Function.comp, trim_blank_cons (by decide : isBlank ' ' = true),
        trim_of_isWord (hparts part hpart), id]
    rw [htrim, List.filter_eq_self]
    intro part hpart
    have hnonempty := (isWord_iff.mp (hparts part hpart)).1
    simpa using hnonempty
  cases names with
  | nil => rfl
  | cons first rest =>
      have hcomma : ∀ part ∈ first :: rest, ',' ∉ part := fun part hpart =>
        not_mem_of_isWord (h part hpart) (by decide)
      have hsplit := splitAt_joinWith_blank (hcomma first List.mem_cons_self)
        fun part hpart => hcomma part (List.mem_cons_of_mem _ hpart)
      have hfirst := h first List.mem_cons_self
      have hnonempty : first.isEmpty = false := by
        simpa using (isWord_iff.mp hfirst).1
      rw [indexFieldNames]
      change (((splitAt ',' (joinWith [',', ' '] (first :: rest))).map trim).filter _) = _
      rw [hsplit, List.map_cons, trim_of_isWord hfirst,
        List.filter_cons_of_pos (by simp [hnonempty]),
        hkeep rest fun part hpart => h part (List.mem_cons_of_mem _ hpart)]

/-- The statement that an index line makes. -/
def indexStatement (names : List String) (index : Index) : IndexStatement :=
  ⟨joinWith (word ", ") (names.map String.toList), joinWith (word ", ") (indexTags index)⟩

theorem declare?_indexStatement {names : List String} (index : Index) (hnonempty : names ≠ [])
    (hwords : ∀ name ∈ names, isWord name.toList = true) :
    (indexStatement names index).declare? = some ⟨index.name, index.unique, names⟩ := by
  have hall : ∀ name ∈ names.map String.toList, isWord name = true := by
    intro name hname
    obtain ⟨field, hfield, rfl⟩ := List.mem_map.mp hname
    exact hwords field hfield
  have hempty : (names.map String.toList).isEmpty = false := by simpa using hnonempty
  have hback : (names.map String.toList).map String.ofList = names := by simp
  obtain ⟨rest, htags, hunique⟩ := extractTag_indexTags index
  simp only [IndexStatement.declare?, indexStatement, indexFieldNames_joinWith hall, hempty,
    Bool.false_eq_true, if_false, htags, Option.getD_some, String.ofList_toList, hunique, hback]

/-- The line of an index is inert. -/
theorem inert_indexText {names : List String} (index : Index)
    (hwords : ∀ name ∈ names, isWord name.toList = true) :
    Inert ('\t' :: '\t' :: indexText names index) := by
  have hopen : Quiet (word "\t\t(") := quiet_of_all (by decide)
  have hnames : Quiet (joinWith (word ", ") (names.map String.toList)) := by
    apply quiet_joinWith
    intro name hname
    obtain ⟨field, hfield, rfl⟩ := List.mem_map.mp hname
    exact hwords field hfield
  have htags : Quiet (')' :: (word " [" ++
      leading (if index.unique then [word "unique"] else []) ++ word "name" ++ word ": ")) := by
    apply quiet_of_all
    cases index.unique <;> decide
  have hline := (((hopen.append hnames).append htags).inert.quoted index.name.toList).bracket
  rw [indexText, indexTags_eq, bracketed_quotedTag]
  simpa [word] using hline

/-- An index line is taken at the start of a line, and nothing behind it. -/
theorem takeIndex?_line {names : List String} (index : Index)
    (hwords : ∀ name ∈ names, isWord name.toList = true) (rest : List Char) :
    takeIndex? (some '\n') (('\t' :: '\t' :: indexText names index) ++ '\n' :: rest) =
      some (indexStatement names index, '\n' :: rest) := by
  have hall : ∀ name ∈ names.map String.toList, isWord name = true := by
    intro name hname
    obtain ⟨field, hfield, rfl⟩ := List.mem_map.mp hname
    exact hwords field hfield
  have hparen : ')' ∉ joinWith (word ", ") (names.map String.toList) :=
    not_mem_joinWith (by decide) (by decide) hall
  have hfeed : '\n' ∉ bracketed (indexTags index) := fun hmem =>
    (inert_indexText index hwords).unbroken.1 (by simp [indexText, hmem])
  have hskip : skipInline (('\t' :: '\t' :: indexText names index) ++ '\n' :: rest) =
      '(' :: (joinWith (word ", ") (names.map String.toList) ++
        ')' :: (bracketed (indexTags index) ++ '\n' :: rest)) := by
    rw [List.cons_append, List.cons_append, skipInline_blank_cons (by decide),
      skipInline_blank_cons (by decide), indexText, List.cons_append,
      skipInline_of_head (by simp [isInlineBlank])]
    simp
  obtain ⟨hfields, hbehind⟩ := takeWhile_dropWhile_mark hparen
    (bracketed (indexTags index) ++ '\n' :: rest)
  obtain ⟨htags, hrest⟩ := takeWhile_dropWhile_mark hfeed rest
  simp only [takeIndex?, isLineStart, hskip, afterChar?, if_true, Option.bind_eq_bind,
    Option.bind_some, hfields, hbehind, htags, hrest, tagsAtEnd?_bracketed]
  rfl

/-! ## The whole block -/

theorem takeIndex?_feed (previous : Option Char) (rest : List Char) :
    takeIndex? previous ('\n' :: rest) = none := by
  have hskip : skipInline ('\n' :: rest) = '\n' :: rest :=
    skipInline_of_head (by simp [isInlineBlank])
  simp only [takeIndex?, hskip, afterChar?]
  cases isLineStart previous <;> rfl

theorem takeIndex?_end : takeIndex? (some '\n') ['\t'] = none := rfl

/-- The lines of an index block declare the indexes that have lines. -/
theorem items_indexLines {table : Table κ} {indexes : List Index}
    (h : ∀ field ∈ table.fields, isWord field.name.toList = true) (previous : Option Char) :
    (Occurrences.find takeIndex? previous
        ('\n' :: ((indexes.filterMap (indexLine? table)).flatMap (indented 2) ++
          ['\t']))).items.filterMap IndexStatement.declare? =
      indexes.filterMap (Index.declared? table) := by
  induction indexes generalizing previous with
  | nil =>
      rw [List.filterMap_nil, List.flatMap_nil, List.nil_append,
        Occurrences.find_cons_of_none (takeIndex?_feed previous _),
        Occurrences.find_cons_of_none takeIndex?_end, Occurrences.find_nil]
      rfl
  | cons index indexes ih =>
      have hwords := isWord_indexFields h index
      cases hnames : indexFields table index with
      | nil =>
          have hline : indexLine? table index = none := by simp [indexLine?_eq, hnames]
          have hdeclared : index.declared? table = none := by simp [Index.declared?, hnames]
          rw [List.filterMap_cons_none hline, List.filterMap_cons_none hdeclared]
          exact ih previous
      | cons name names =>
          have hline : indexLine? table index = some (indexText (name :: names) index) := by
            simp [indexLine?_eq, hnames]
          have hdeclared : index.declared? table =
              some ⟨index.name, index.unique, name :: names⟩ := by
            simp [Index.declared?, hnames]
          rw [hnames] at hwords
          have htext : ∀ rest : List Char, indented 2 (indexText (name :: names) index) ++ rest =
              ('\t' :: '\t' :: indexText (name :: names) index) ++ '\n' :: rest := by
            intro rest
            simp [indented]
          rw [List.filterMap_cons_some hline, List.filterMap_cons_some hdeclared,
            List.flatMap_cons, List.append_assoc, htext,
            Occurrences.find_cons_of_none (takeIndex?_feed previous _),
            Occurrences.find_append_of_some (List.cons_ne_nil _ _) (takeIndex?_line index hwords _),
            Occurrences.items_plain, Occurrences.items_item,
            List.filterMap_cons_some (declare?_indexStatement index (List.cons_ne_nil _ _) hwords),
            ih]

end SchemaText

end SchemaDiagram
