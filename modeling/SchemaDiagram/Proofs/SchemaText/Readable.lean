import SchemaDiagram.Proofs.SchemaText.Declared

/-!
# What is read can be written

Whatever a text looks like, the names that are read from it are words, and the name of a type stands
for that type again: resolving it once more changes nothing.  So what a text declares can be written
as text, and only quotes, braces and slashes in the names of types can spoil that.
-/

namespace SchemaDiagram

open SchemaDiagram.Text

variable {κ : Type}

/-- A declared field whose line names it and its type. -/
structure FieldDeclaration.Readable (dialect : Dialect) (declaration : FieldDeclaration) : Prop
    where
  name : isWord declaration.name.toList = true
  dataType : declaration.dataType.Readable dialect

/-- A declared table of such fields. -/
structure TableDeclaration.Readable (dialect : Dialect) (declaration : TableDeclaration) : Prop
    where
  name : isWord declaration.name.toList = true
  fields : ∀ field ∈ declaration.fields, field.Readable dialect

/-- A declared schema of such tables. -/
structure DeclaredSchema.Readable (dialect : Dialect) (schema : DeclaredSchema) : Prop where
  tables : ∀ table ∈ schema.tables, table.Readable dialect
  relationships : ∀ relationship ∈ schema.relationships, isWord relationship.name.toList = true

/-! ## Words and trimmed texts -/

theorem isWord_of_takeWord? {text word rest : List Char}
    (h : takeWord? text = some (word, rest)) : isWord word = true :=
  (takeWord?_eq_some_iff.mp h).1

theorem mem_of_mem_trim {text : List Char} {c : Char} (h : c ∈ trim text) : c ∈ text := by
  have hcut : trim text <+: trimStart text := trimEnd_prefix (trimStart text)
  exact (List.dropWhile_suffix isBlank).subset (hcut.subset h)

/-- Trimming leaves the first character if that is no blank. -/
theorem head?_trim {c : Char} (h : isBlank c = false) (rest : List Char) :
    (trim (c :: rest)).head? = some c := by
  rw [trim, trimStart_of_head (by simpa using h), trimEnd, dropEndWhile, List.reverse_cons,
    List.dropWhile_append]
  split
  · simp [h]
  · simp

theorem not_mem_of_mem_splitAt {separator : Char} {text : List Char} :
    ∀ part ∈ splitAt separator text, separator ∉ part := by
  induction text with
  | nil =>
      intro part hpart
      obtain rfl := List.mem_singleton.mp hpart
      exact List.not_mem_nil
  | cons c text ih =>
      rw [splitAt]
      by_cases hc : c = separator
      · rw [if_pos (beq_iff_eq.mpr hc)]
        exact List.forall_mem_cons.mpr ⟨List.not_mem_nil, ih⟩
      · rw [if_neg (by simpa using hc)]
        have hne : ∀ part, separator ∉ part → separator ∉ c :: part := by
          intro part hpart hmem
          exact (List.mem_cons.mp hmem).elim (fun h => hc h.symm) hpart
        split
        · exact List.forall_mem_singleton.mpr (hne [] List.not_mem_nil)
        · next first others hparts =>
            rw [hparts, List.forall_mem_cons] at ih
            exact List.forall_mem_cons.mpr ⟨hne first ih.1, ih.2⟩

namespace SchemaText

/-! ## Fields -/

/-- Whether a text starts like a word and is cut from its line as the name of a type. -/
def isTypeName (text : List Char) : Bool :=
  text.head?.any isWordChar && text.all fun c => isTypeChar c && c != '\n'

theorem isTypeName_iff {text : List Char} :
    isTypeName text = true ↔
      text.head?.any isWordChar = true ∧ ∀ c ∈ text, isTypeChar c = true ∧ c ≠ '\n' := by
  simp [isTypeName]

theorem isTypeName_trim {text : List Char} (h : isTypeName text = true) :
    isTypeName (trim text) = true := by
  obtain ⟨hstart, hchars⟩ := isTypeName_iff.mp h
  refine isTypeName_iff.mpr ⟨?_, fun c hc => hchars c (mem_of_mem_trim hc)⟩
  cases text with
  | nil => cases hstart
  | cons c rest =>
      have hc : isWordChar c = true := by simpa using hstart
      rw [head?_trim (isBlank_of_isWordChar hc)]
      exact hc

/-- The name of a field is a word, and its type is the name of a type. -/
theorem fieldOfLine?_eq_some {line : List Char} {statement : FieldStatement}
    (hline : '\n' ∉ line) (h : fieldOfLine? line = some statement) :
    isWord statement.name = true ∧ isTypeName statement.type = true := by
  simp only [fieldOfLine?, Option.bind_eq_bind, Option.bind_eq_some_iff] at h
  obtain ⟨⟨name, behind⟩, hname, rest, hskip, ⟨⟩, hguard, tags, htags, hstatement⟩ := h
  obtain rfl := Option.some.inj hstatement
  have hstart : rest.head?.any isWordChar = true := by
    by_contra hnot
    simp [hnot] at hguard
  have hrest : rest <:+ line := by
    have hbehind : rest <:+ behind := by
      rw [skipInlineSome?] at hskip
      split at hskip
      · rw [← Option.some.inj hskip]
        exact List.dropWhile_suffix _
      · cases hskip
    exact hbehind.trans ((takeWord?_suffix hname).trans (List.dropWhile_suffix _))
  refine ⟨isWord_of_takeWord? hname, isTypeName_trim (isTypeName_iff.mpr ⟨?_, fun c hc => ?_⟩)⟩
  · cases rest with
    | nil => cases hstart
    | cons c more =>
        have hc : isWordChar c = true := by simpa using hstart
        have hbracket : c ≠ '[' := ne_of_isWordChar hc (by decide)
        have hreturn : c ≠ '\r' := ne_of_isWordChar hc (by decide)
        have htype : isTypeChar c = true := by simp [isTypeChar, hbracket, hreturn]
        rw [List.takeWhile_cons_of_pos htype]
        exact hc
  · refine ⟨List.mem_takeWhile_imp hc, ?_⟩
    rintro rfl
    exact hline (hrest.subset (List.takeWhile_subset _ hc))

theorem isTypeName_types :
    (Dialect.all.all fun dialect => dialect.types.all fun type =>
      isTypeName type.name.toList) = true := by decide +kernel

theorem isTypeName_aliases :
    (DataType.aliases.all fun entry => isTypeName entry.2.toList) = true := by decide +kernel

theorem isTypeName_of_mem_types {dialect : Dialect} {type : DataType}
    (hmem : type ∈ dialect.types) :
    isTypeName type.name.toList = true := by
  have hall := List.all_eq_true.mp isTypeName_types dialect dialect.mem_all
  exact List.all_eq_true.mp hall type hmem

/-- The type that a written name is resolved to. -/
theorem readable_resolveType (dialect : Dialect) {written : List Char}
    (h : isTypeName written = true) :
    (dialect.resolveType (String.ofList written)).Readable dialect := by
  have hname : isTypeName (dialect.resolveType (String.ofList written)).name.toList = true := by
    obtain ⟨type, hmem, hname⟩ | hmem | hname := dialect.name_resolveType (String.ofList written)
    · rw [hname]
      exact isTypeName_of_mem_types hmem
    · obtain ⟨entry, hentry, hname⟩ := List.mem_map.mp hmem
      rw [← hname]
      exact List.all_eq_true.mp isTypeName_aliases entry hentry
    · rw [hname, trimmed, String.toList_ofList, String.toList_ofList]
      exact isTypeName_trim h
  obtain ⟨hstart, hchars⟩ := isTypeName_iff.mp hname
  refine ⟨(dialect.resolveType_name _).symm, hstart, fun c hc => ?_⟩
  obtain ⟨htype, hfeed⟩ := hchars c hc
  simp only [isTypeChar, Bool.and_eq_true, bne_iff_ne] at htype
  simp [htype.1, htype.2, hfeed]

/-- What the line of a field declares. -/
theorem readable_declare (dialect : Dialect) {line : List Char} {statement : FieldStatement}
    (hline : '\n' ∉ line) (h : fieldOfLine? line = some statement) :
    (statement.declare dialect).Readable dialect := by
  obtain ⟨hname, htype⟩ := fieldOfLine?_eq_some hline h
  constructor
  · simpa [FieldStatement.declare] using hname
  · exact readable_resolveType dialect htype

/-! ## Tables and relationships -/

/-- What a recogniser finds has the properties of everything that it takes. -/
theorem forall_mem_items_find {α : Type} {recognise : Recogniser α} {property : α → Prop}
    (h : ∀ previous text value rest, recognise previous text = some (value, rest) →
      property value) (previous : Option Char) (text : List Char) :
    ∀ value ∈ (Occurrences.find recognise previous text).items, property value := by
  fun_induction Occurrences.find recognise previous text with
  | case1 => exact fun _ hmem => absurd hmem List.not_mem_nil
  | case2 previous c rest value after htake hshorter ih =>
      rw [Occurrences.items_item]
      exact List.forall_mem_cons.mpr ⟨h _ _ _ _ htake, ih⟩
  | case3 previous c rest value after htake hlonger ih =>
      rw [Occurrences.items_plain]
      exact ih
  | case4 previous c rest hnone ih =>
      rw [Occurrences.items_plain]
      exact ih

theorem isWord_takeBlock? {previous : Option Char} {text rest : List Char} {block : Block}
    (h : takeBlock? previous text = some (block, rest)) : isWord block.name = true :=
  (takeBlock?_eq_some_iff.mp h).2.1.name

theorem isWord_takeRelationship? {previous : Option Char} {text rest : List Char}
    {statement : RelationshipStatement}
    (h : takeRelationship? previous text = some (statement, rest)) :
    isWord statement.name = true := by
  simp only [takeRelationship?, Option.bind_eq_bind, Option.bind_eq_some_iff] at h
  obtain ⟨_, _, _, _, _, _, ⟨name, behind⟩, hname, _, _, _, _, _, _, _, _, hstatement⟩ := h
  obtain ⟨rfl, -⟩ := Prod.mk.inj (Option.some.inj hstatement)
  exact isWord_of_takeWord? hname

theorem readable_block (dialect : Dialect) {block : Block} (h : isWord block.name = true) :
    (block.declare dialect).Readable dialect := by
  constructor
  · simpa [Block.declare] using h
  · intro field hfield
    obtain ⟨statement, hstatement, rfl⟩ := List.mem_map.mp hfield
    obtain ⟨line, hline, hsome⟩ := List.mem_filterMap.mp hstatement
    exact readable_declare dialect (not_mem_of_mem_splitAt line hline) hsome

/-- Every text declares what can be read. -/
theorem readable_parse (dialect : Dialect) (text : String) :
    (parse dialect text).Readable dialect := by
  constructor
  · intro table htable
    obtain ⟨block, hblock, rfl⟩ := List.mem_map.mp htable
    apply readable_block
    exact forall_mem_items_find (fun _ _ _ _ => isWord_takeBlock?) _ _ block hblock
  · intro relationship hrelationship
    obtain ⟨piece, -, hpiece⟩ := List.mem_flatMap.mp hrelationship
    obtain ⟨statement, hstatement, rfl⟩ := List.mem_map.mp hpiece
    have hname := forall_mem_items_find
      (fun _ _ _ _ => isWord_takeRelationship?) _ _ statement hstatement
    simpa [RelationshipStatement.declare] using hname

end SchemaText

/-! ## Models that state what was read -/

/-- The names of the declared types are sealed. -/
def DeclaredSchema.SealedTypes (schema : DeclaredSchema) : Prop :=
  ∀ table ∈ schema.tables, ∀ field ∈ table.fields,
    SchemaText.Sealed field.dataType.name.toList

instance (schema : DeclaredSchema) : Decidable schema.SealedTypes :=
  inferInstanceAs (Decidable (∀ table ∈ schema.tables, ∀ field ∈ table.fields,
    SchemaText.Sealed field.dataType.name.toList))

theorem Relationship.name_declared? {live : List (Table κ)} {link : Relationship}
    {declaration : RelationshipDeclaration} (h : link.declared? live = some declaration) :
    declaration.name = link.name := by
  simp only [declared?, Option.bind_eq_bind, Option.bind_eq_some_iff] at h
  obtain ⟨source, -, target, -, hash, -, hsame⟩ := h
  rw [← Option.some.inj hsame]

namespace DeclaredSchema.StatedBy

variable {dialect : Dialect} {schema : DeclaredSchema} {live : List (Table κ)}
  {linked : List Relationship}

/-- A model that states what can be read can be written and read again. -/
theorem legible (h : schema.StatedBy live linked) (hreadable : schema.Readable dialect)
    (hsealed : schema.SealedTypes) : SchemaText.Legible dialect live linked := by
  constructor
  · intro table htable
    have hdeclared : table.declared ∈ schema.tables := by
      rw [← h.tables]
      exact List.mem_map_of_mem htable
    obtain ⟨hname, hfields⟩ := hreadable.tables table.declared hdeclared
    refine ⟨hname, fun field hfield => ?_⟩
    have hmem : field.declared ∈ table.declared.fields := List.mem_map_of_mem hfield
    obtain ⟨hword, htype⟩ := hfields field.declared hmem
    exact ⟨hword, htype, hsealed table.declared hdeclared field.declared hmem⟩
  · intro link hlink
    have hmem : link.declared? live ∈ schema.relationships.map some := by
      rw [← h.relationships]
      exact List.mem_map_of_mem hlink
    obtain ⟨declaration, hdeclared, hsome⟩ := List.mem_map.mp hmem
    rw [← Relationship.name_declared? hsome.symm]
    exact hreadable.relationships declaration hdeclared

/-- The text of such a model declares the schema again. -/
theorem parse_text (h : schema.StatedBy live linked) (hreadable : schema.Readable dialect)
    (hsealed : schema.SealedTypes) :
    SchemaText.parse dialect (SchemaText.generate live linked) = schema := by
  have hlegible := h.legible hreadable hsealed
  calc
    SchemaText.parse dialect (SchemaText.generate live linked)
        = ⟨(SchemaText.parse dialect (SchemaText.generate live linked)).tables,
            (SchemaText.parse dialect (SchemaText.generate live linked)).relationships⟩ := rfl
    _ = declaredBy live linked := by
        rw [hlegible.tables_parse_generate, hlegible.relationships_parse_generate, declaredBy]
    _ = schema := h.declaredBy_eq

end DeclaredSchema.StatedBy

end SchemaDiagram
