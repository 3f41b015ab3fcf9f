import SchemaDiagram.Proofs.SchemaText.Segments
import SchemaDiagram.Proofs.SchemaText.Tags

/-!
# Fields and notes are read back

The line of a field declares that field, and the line of a note holds that note; neither is taken
for the other.  The name of a type may hold blanks and most punctuation, since it runs up to the
tags or the end of the line.
-/

namespace SchemaDiagram

open SchemaDiagram.Text

/-! ## Names of types -/

/-- A type whose name can be written in schema text and stands for the type again. -/
structure DataType.Writable (dialect : Dialect) (type : DataType) : Prop where
  resolved : type = dialect.resolveType type.name
  start : type.name.toList.head?.any isWordChar = true
  chars : ∀ c ∈ type.name.toList, c ∉ ['[', '\x7b', '\x7d', '\x27', '\x22', '\r', '\n']
  slashes : ¬ ['/', '/'] <:+: type.name.toList

/-- A type as the parser makes it: its name starts a type on a line, and stands for it again. -/
structure DataType.Readable (dialect : Dialect) (type : DataType) : Prop where
  resolved : type = dialect.resolveType type.name
  start : type.name.toList.head?.any isWordChar = true
  chars : ∀ c ∈ type.name.toList, c ∉ ['[', '\r', '\n']

/-- A type whose name can be read back from the line of a field.  Quotes may stand in it, as long as
they are closed, and braces and comments between them. -/
structure DataType.Legible (dialect : Dialect) (type : DataType) : Prop
    extends type.Readable dialect where
  closed : SchemaText.Sealed type.name.toList

theorem DataType.Writable.legible {dialect : Dialect} {type : DataType}
    (h : type.Writable dialect) : type.Legible dialect := by
  have hnone : ∀ c ∈ ['\x7b', '\x7d', '\x27', '\x22'], c ∉ type.name.toList := by
    intro c hc hmem
    have hnot := h.chars c hmem
    simp only [List.mem_cons, not_or] at hc hnot
    tauto
  refine ⟨⟨h.resolved, h.start, ?_⟩, SchemaText.sealed_plain ?_ ?_ ?_ h.slashes⟩
  · intro c hc hmem
    have hnot := h.chars c hc
    simp only [List.mem_cons, not_or] at hmem hnot
    tauto
  · intro c hc
    by_contra hquote
    rw [Bool.not_eq_false, SchemaText.isQuote, Bool.or_eq_true, beq_iff_eq, beq_iff_eq] at hquote
    rcases hquote with rfl | rfl
    · exact hnone _ (by decide) hc
    · exact hnone _ (by decide) hc
  · exact hnone _ (by decide)
  · exact hnone _ (by decide)

/-- A type whose name holds no slash at all. -/
theorem DataType.writable_of_slashless {dialect : Dialect} {type : DataType}
    (hresolved : type = dialect.resolveType type.name)
    (hstart : type.name.toList.head?.any isWordChar = true)
    (hchars : type.name.toList.any (fun c =>
      ['/', '[', '\x7b', '\x7d', '\x27', '\x22', '\r', '\n'].contains c) = false) :
    type.Writable dialect := by
  have hnone : ∀ c ∈ type.name.toList,
      c ∉ ['/', '[', '\x7b', '\x7d', '\x27', '\x22', '\r', '\n'] := by
    intro c hc
    have hchar := List.any_eq_false.mp hchars c hc
    simpa using hchar
  refine ⟨hresolved, hstart, ?_, ?_⟩
  · exact fun c hc hmem => hnone c hc (List.mem_cons_of_mem _ hmem)
  · exact fun hslashes => hnone '/' (hslashes.subset List.mem_cons_self) List.mem_cons_self

/-- The type that a name stands for which is no short name. -/
def Dialect.resolveNamed (dialect : Dialect) (name : String) : DataType :=
  match dialect.typeNamed? (lowered name) with
  | some type => type
  | none =>
    match (Dialect.baseName? (lowered name)).bind dialect.typeNamed? with
    | some base => ⟨base.id, name⟩
    | none => DataType.literal name

theorem Dialect.mem_types_of_typeNamed? {dialect : Dialect} {name : String} {type : DataType}
    (h : dialect.typeNamed? name = some type) : type ∈ dialect.types :=
  List.mem_of_find?_eq_some h

theorem Dialect.resolveNamed_cases (dialect : Dialect) (name : String) :
    dialect.resolveNamed name ∈ dialect.types ∨ (dialect.resolveNamed name).name = name := by
  unfold Dialect.resolveNamed
  cases htype : dialect.typeNamed? (lowered name) with
  | some type => exact .inl (mem_types_of_typeNamed? htype)
  | none =>
      right
      cases (Dialect.baseName? (lowered name)).bind dialect.typeNamed? with
      | some base => rfl
      | none => rfl

theorem trimmed_trimmed (text : String) : trimmed (trimmed text) = trimmed text := by
  simp [trimmed, trim_trim]

/-- A type that is known under the written name wins over a short name. -/
theorem Dialect.resolveType_eq (dialect : Dialect) (written : String) :
    dialect.resolveType written =
      (dialect.typeNamed? (lowered (trimmed written))).getD (dialect.resolveNamed
        ((DataType.aliases.lookup (lowered (trimmed written))).getD (trimmed written))) := by
  obtain ⟨name, hname⟩ : ∃ name,
      (DataType.aliases.lookup (lowered (trimmed written))).getD (trimmed written) = name :=
    ⟨_, rfl⟩
  cases htype : dialect.typeNamed? (lowered (trimmed written)) with
  | some type => simp only [resolveType, htype, Option.getD_some]
  | none =>
      cases hnamed : dialect.typeNamed? (lowered name) with
      | some type => simp only [resolveType, resolveNamed, htype, hname, hnamed, Option.getD_none]
      | none =>
          cases hbase : (baseName? (lowered name)).bind dialect.typeNamed? with
          | some base =>
              simp only [resolveType, resolveNamed, htype, hname, hnamed, hbase, Option.getD_none]
          | none =>
              simp only [resolveType, resolveNamed, htype, hname, hnamed, hbase, Option.getD_none]

theorem Dialect.resolveType_of_no_alias (dialect : Dialect) {name : String}
    (h : DataType.aliases.lookup (lowered (trimmed name)) = none) :
    dialect.resolveType name = dialect.resolveNamed (trimmed name) := by
  rw [resolveType_eq, h, Option.getD_none]
  cases htype : dialect.typeNamed? (lowered (trimmed name)) with
  | some type => simp only [resolveNamed, htype, Option.getD_some]
  | none => rw [Option.getD_none]

theorem lookup_aliases :
    ∀ name ∈ DataType.aliases.map Prod.snd,
      trimmed name = name ∧ DataType.aliases.lookup (lowered name) = none := by decide +kernel

/-- A name is resolved to a type of the dialect, or it is kept, unless it is a short name. -/
theorem Dialect.resolveType_cases (dialect : Dialect) (written : String) :
    dialect.resolveType written ∈ dialect.types ∨
      ∃ name, (name = trimmed written ∨ name ∈ DataType.aliases.map Prod.snd) ∧
        dialect.resolveType written = dialect.resolveNamed name ∧
        trimmed name = name ∧ DataType.aliases.lookup (lowered name) = none := by
  cases halias : DataType.aliases.lookup (lowered (trimmed written)) with
  | none =>
      exact .inr ⟨trimmed written, .inl rfl, dialect.resolveType_of_no_alias halias,
        trimmed_trimmed written, halias⟩
  | some name =>
      have hname : name ∈ DataType.aliases.map Prod.snd := by
        obtain ⟨before, after, hsplit, -⟩ := List.lookup_eq_some_iff.mp halias
        rw [hsplit]
        simp
      cases htype : dialect.typeNamed? (lowered (trimmed written)) with
      | some type =>
          left
          rw [resolveType_eq, htype]
          exact mem_types_of_typeNamed? htype
      | none =>
          have hresolved : dialect.resolveType written = dialect.resolveNamed name := by
            rw [resolveType_eq, htype, halias]
            rfl
          exact .inr ⟨name, .inr hname, hresolved, lookup_aliases name hname⟩

/-- The name that a type is resolved to: one of a type of the dialect, one that a short name stands
for, or the name as it is written. -/
theorem Dialect.name_resolveType (dialect : Dialect) (written : String) :
    (∃ type ∈ dialect.types, (dialect.resolveType written).name = type.name) ∨
      (dialect.resolveType written).name ∈ DataType.aliases.map Prod.snd ∨
      (dialect.resolveType written).name = trimmed written := by
  obtain hmem | ⟨name, horigin, hresolved, -, -⟩ := dialect.resolveType_cases written
  · exact .inl ⟨_, hmem, rfl⟩
  · rw [hresolved]
    rcases dialect.resolveNamed_cases name with hmem | hname
    · exact .inl ⟨_, hmem, rfl⟩
    · rw [hname]
      exact .inr horigin.symm

theorem Dialect.mem_all (dialect : Dialect) : dialect ∈ Dialect.all := by
  cases dialect <;> decide

theorem resolveType_types :
    ∀ dialect ∈ Dialect.all, ∀ type ∈ dialect.types,
      trimmed type.name = type.name ∧ dialect.resolveType type.name = type := by decide +kernel

/-- Resolving the name of what a name is resolved to changes nothing. -/
theorem Dialect.resolveType_name (dialect : Dialect) (written : String) :
    dialect.resolveType (dialect.resolveType written).name = dialect.resolveType written := by
  obtain hmem | ⟨name, -, hresolved, htrim, halias⟩ := dialect.resolveType_cases written
  · exact (resolveType_types dialect dialect.mem_all _ hmem).2
  · rw [hresolved]
    rcases dialect.resolveNamed_cases name with hmem | hname
    · exact (resolveType_types dialect dialect.mem_all _ hmem).2
    · rw [hname, dialect.resolveType_of_no_alias (by rwa [htrim]), htrim]

/-- What a name is resolved to has a trimmed name. -/
theorem Dialect.trimmed_name_resolveType (dialect : Dialect) (written : String) :
    trimmed (dialect.resolveType written).name = (dialect.resolveType written).name := by
  obtain ⟨type, hmem, hname⟩ | hmem | hname := dialect.name_resolveType written
  · rw [hname]
    exact (resolveType_types dialect dialect.mem_all type hmem).1
  · exact (lookup_aliases _ hmem).1
  · rw [hname, trimmed_trimmed]

/-- A type that can be read back has a trimmed name. -/
theorem DataType.Legible.trim_name {dialect : Dialect} {type : DataType}
    (h : type.Legible dialect) : trim type.name.toList = type.name.toList := by
  have htrimmed := dialect.trimmed_name_resolveType type.name
  rw [← h.resolved] at htrimmed
  simpa [trimmed] using congrArg String.toList htrimmed

theorem DataType.Legible.head_isWordChar {dialect : Dialect} {type : DataType}
    (h : type.Legible dialect) :
    ∃ c rest, type.name.toList = c :: rest ∧ isWordChar c = true := by
  have hstart := h.start
  cases hname : type.name.toList with
  | nil => simp [hname] at hstart
  | cons c rest => exact ⟨c, rest, rfl, by simpa [hname] using hstart⟩

/-! ## Fields -/

/-- A field whose line can be read back. -/
structure Field.Writable (dialect : Dialect) (field : Field) : Prop where
  name : isWord field.name.toList = true
  dataType : field.dataType.Writable dialect

/-- A field that its line declares again. -/
structure Field.Legible (dialect : Dialect) (field : Field) : Prop where
  name : isWord field.name.toList = true
  dataType : field.dataType.Legible dialect

theorem Field.Writable.legible {dialect : Dialect} {field : Field} (h : field.Writable dialect) :
    field.Legible dialect :=
  ⟨h.name, h.dataType.legible⟩

/-- A field as its line declares it.  A primary key is unique. -/
def Field.declared (field : Field) : FieldDeclaration where
  name := field.name
  dataType := field.dataType
  primaryKey := field.primaryKey
  unique := field.unique || field.primaryKey
  nullable := field.nullable
  comment := field.comment

namespace SchemaText

theorem fieldLine_eq (field : Field) :
    fieldLine field = field.name.toList ++
      ' ' :: (field.dataType.name.toList ++ bracketed (fieldTags field)) := by
  simp [fieldLine]

/-- The name of a type runs up to the bracket of the tags, and the blank in front of that is
trimmed away. -/
theorem type_cut {dialect : Dialect} {type : DataType} (h : type.Legible dialect)
    (tags : List (List Char)) :
    trim ((type.name.toList ++ bracketed tags).takeWhile isTypeChar) = type.name.toList ∧
      tagsAtEnd? ((type.name.toList ++ bracketed tags).dropWhile isTypeChar) =
        some (joinWith (word ", ") tags) := by
  have htype : ∀ c ∈ type.name.toList, isTypeChar c = true := by
    intro c hc
    have hnot := h.chars c hc
    simp only [List.mem_cons, not_or] at hnot
    obtain ⟨hbracket, hreturn, -⟩ := hnot
    simp [isTypeChar, hbracket, hreturn]
  cases tags with
  | nil =>
      have hnone : bracketed [] = [] := rfl
      rw [hnone, takeWhile_append_stop htype rfl, dropWhile_append_stop htype rfl]
      exact ⟨h.trim_name, rfl⟩
  | cons tag tags =>
      have hsome : type.name.toList ++ bracketed (tag :: tags) =
          (type.name.toList ++ [' ']) ++
            '[' :: (joinWith (word ", ") (tag :: tags) ++ [']']) := by
        simp [bracketed]
      have hfront : ∀ c ∈ type.name.toList ++ [' '], isTypeChar c = true := by
        intro c hc
        rcases List.mem_append.mp hc with hc | hc
        · exact htype c hc
        · rw [List.mem_singleton.mp hc]
          decide
      obtain ⟨c, rest, hname, hc⟩ := h.head_isWordChar
      have hhead : type.name.toList.head?.any isBlank = false := by
        rw [hname]
        simpa using isBlank_of_isWordChar hc
      have hnonempty : type.name.toList ≠ [] := by simp [hname]
      rw [hsome, takeWhile_append_stop hfront rfl, dropWhile_append_stop hfront rfl]
      exact ⟨trim_append_blank h.trim_name hhead hnonempty (by decide), tagsAtEnd?_brackets _⟩

theorem skipInline_fieldLine {dialect : Dialect} {field : Field} (h : field.Legible dialect) :
    skipInline ('\t' :: fieldLine field) = fieldLine field := by
  obtain ⟨c, rest, hname, hc⟩ := exists_of_isWord h.name
  rw [skipInline_blank_cons (by decide)]
  apply skipInline_of_head
  simp [fieldLine_eq, hname, isInlineBlank_of_isWordChar hc]

/-- The name and the type of a field are cut off in front of its tags. -/
theorem fieldOfLine?_fieldLine {dialect : Dialect} {field : Field} (h : field.Legible dialect) :
    fieldOfLine? ('\t' :: fieldLine field) =
      some ⟨field.name.toList, field.dataType.name.toList,
        joinWith (word ", ") (fieldTags field)⟩ := by
  obtain ⟨c, rest, hname, hc⟩ := h.dataType.head_isWordChar
  have htake : takeWord? (fieldLine field) = some (field.name.toList,
      ' ' :: (field.dataType.name.toList ++ bracketed (fieldTags field))) := by
    rw [fieldLine_eq, takeWord?_append h.name (by simp; decide)]
  have hskip : skipInlineSome?
      (' ' :: (field.dataType.name.toList ++ bracketed (fieldTags field))) =
        some (field.dataType.name.toList ++ bracketed (fieldTags field)) := by
    have hhead : skipInline (field.dataType.name.toList ++ bracketed (fieldTags field)) =
        field.dataType.name.toList ++ bracketed (fieldTags field) := by
      apply skipInline_of_head
      simp [hname, isInlineBlank_of_isWordChar hc]
    simp [skipInlineSome?, skipInline_blank_cons, isInlineBlank, hhead]
  have hguard : (field.dataType.name.toList ++ bracketed (fieldTags field)).head?.any
      isWordChar = true := by
    simp [hname, hc]
  obtain ⟨htype, htags⟩ := type_cut h.dataType (fieldTags field)
  simp only [fieldOfLine?, skipInline_fieldLine h, htake, hskip, hguard, htype, htags,
    Option.bind_eq_bind, Option.bind_some, guard_true, Option.pure_def]

/-- A field is declared by its line. -/
theorem declare_fieldLine {dialect : Dialect} {field : Field} (h : field.Legible dialect) :
    (fieldOfLine? ('\t' :: fieldLine field)).map (FieldStatement.declare dialect) =
      some field.declared := by
  obtain ⟨rest, htags, hflags⟩ := extractTag_fieldTags field
  rw [fieldOfLine?_fieldLine h]
  have hunique : (field.unique && !field.primaryKey || field.primaryKey) =
      (field.unique || field.primaryKey) := by
    cases field.unique <;> cases field.primaryKey <;> rfl
  have hcomment : (field.comment.map String.toList).map String.ofList = field.comment := by
    cases field.comment with
    | none => rfl
    | some comment => simp
  simp only [Option.map_some, FieldStatement.declare, htags, hflags, String.ofList_toList,
    ← h.dataType.resolved, Field.declared, hunique, hcomment]

/-! ## Notes -/

theorem afterPrefixIgnoringCase?_eq_some {keyword text rest : List Char}
    (h : afterPrefixIgnoringCase? keyword text = some rest) :
    ∃ written, text = written ++ rest ∧ written.map Char.toLower = keyword := by
  induction keyword generalizing text with
  | nil => exact ⟨[], by simpa [afterPrefixIgnoringCase?] using h, rfl⟩
  | cons k keyword ih =>
      cases text with
      | nil => simp [afterPrefixIgnoringCase?] at h
      | cons c text =>
          rw [afterPrefixIgnoringCase?] at h
          split at h
          · next heq =>
              obtain ⟨written, rfl, hwritten⟩ := ih h
              exact ⟨c :: written, rfl, by simp [hwritten, eq_of_beq heq]⟩
          · cases h

/-- A word and a second one behind a blank hold no colon where a tag has one. -/
theorem takeTag?_of_words {keyword name : List Char} (hkeyword : ' ' ∉ keyword)
    (hname : isWord name = true) {c : Char} (hc : isWordChar c = true) (rest : List Char) :
    takeTag? keyword (name ++ ' ' :: c :: rest) = none := by
  have hcolon : ∀ d more, isWordChar d = true →
      afterChar? ':' (skipInline (d :: more)) = none := by
    intro d more hd
    rw [skipInline_of_head (by simpa using isInlineBlank_of_isWordChar hd), afterChar?,
      if_neg (ne_of_isWordChar hd (by decide))]
  cases hafter : afterPrefixIgnoringCase? keyword (name ++ ' ' :: c :: rest) with
  | none => simp [takeTag?, hafter]
  | some after =>
      obtain ⟨written, hsplit, hwritten⟩ := afterPrefixIgnoringCase?_eq_some hafter
      have hnone : afterChar? ':' (skipInline after) = none := by
        rcases List.append_eq_append_iff.mp hsplit with ⟨tail, hlong, htail⟩ | ⟨tail, hshort, rfl⟩
        · cases tail with
          | nil =>
              obtain rfl : ' ' :: c :: rest = after := by simpa using htail
              rw [skipInline_blank_cons (by decide)]
              exact hcolon c rest hc
          | cons d tail =>
              -- The keyword would have to hold the blank behind the name.
              obtain rfl : ' ' = d := (List.cons.inj htail).1
              refine absurd ?_ hkeyword
              rw [← hwritten, hlong]
              simp
        · cases tail with
          | nil =>
              rw [List.nil_append, skipInline_blank_cons (by decide)]
              exact hcolon c rest hc
          | cons d tail =>
              exact hcolon d _ ((isWord_iff.mp hname).2 d (by simp [hshort]))
      simp [takeTag?, hafter, hnone]

/-- The line of a field is no note. -/
theorem noteOfLine?_fieldLine {dialect : Dialect} {field : Field} (h : field.Legible dialect) :
    noteOfLine? ('\t' :: fieldLine field) = none := by
  obtain ⟨c, rest, hname, hc⟩ := h.dataType.head_isWordChar
  rw [noteOfLine?, skipInline_fieldLine h, fieldLine_eq, hname, List.cons_append,
    takeTag?_of_words (by decide) h.name hc]
  rfl

/-- The line of a note holds that note. -/
theorem noteOfLine?_note (comment : List Char) :
    noteOfLine? ('\t' :: (word "Note: " ++ quote comment)) =
      some (comment.flatMap quoteChar) := by
  have hline : skipInline ('\t' :: (word "Note: " ++ quote comment)) =
      ['N', 'o', 't', 'e'] ++ ':' :: ' ' :: (quote comment ++ []) := by
    rw [skipInline_blank_cons (by decide), List.append_nil]
    rfl
  rw [noteOfLine?, hline, takeTag?_append (by decide)]
  rfl

/-- The line of a note declares no field. -/
theorem fieldOfLine?_note (comment : List Char) :
    fieldOfLine? ('\t' :: (word "Note: " ++ quote comment)) = none := by
  rfl

/-! ## Lines that no scanner looks into -/

theorem quiet_bracketed_flagTags (unique primaryKey nullable : Bool) :
    Quiet (bracketed (flagTags unique primaryKey nullable)) := by
  apply quiet_of_all
  revert unique primaryKey nullable
  decide

theorem quiet_leading_flagTags (unique primaryKey nullable : Bool) :
    Quiet (word " [" ++ leading (flagTags unique primaryKey nullable) ++ word "note" ++
      word ": ") := by
  apply quiet_of_all
  revert unique primaryKey nullable
  decide

theorem bracketed_quotedTag (tags : List (List Char)) (keyword value : String) :
    bracketed (tags ++ [quotedTag keyword value]) =
      (word " [" ++ leading tags ++ word keyword ++ word ": ") ++ quote value.toList ++ [']'] := by
  rw [bracketed, joinWith_concat, quotedTag]
  simp [word]

/-- A name and a type are inert together with quiet text on both sides. -/
theorem inert_type {dialect : Dialect} {type : DataType} (h : type.Legible dialect)
    {before after : List Char} (hbefore : Quiet before) (hafter : Quiet after) :
    Inert (before ++ type.name.toList ++ after) := by
  obtain ⟨c, rest, hname, hc⟩ := h.head_isWordChar
  have hunbroken : Unbroken type.name.toList :=
    ⟨fun hmem => h.chars _ hmem (by decide), fun hmem => h.chars _ hmem (by decide)⟩
  have htype : Inert type.name.toList := ⟨h.closed, hunbroken⟩
  have hstart : type.name.toList.head? ≠ some '/' := by
    rw [hname]
    simpa using ne_of_isWordChar hc (by decide)
  have hend : after.head? ≠ some '/' := fun hhead =>
    hafter.not_mem (by decide) (List.mem_of_mem_head? hhead)
  exact (hbefore.inert.append htype hstart).append hafter.inert hend

/-- The line of a field is inert, whatever its comment. -/
theorem inert_fieldLine {dialect : Dialect} {field : Field} (h : field.Legible dialect) :
    Inert ('\t' :: fieldLine field) := by
  have hbefore : Quiet ('\t' :: (field.name.toList ++ [' '])) := by
    have htab : Quiet ['\t'] := quiet_of_all (by decide)
    have hblank : Quiet [' '] := quiet_of_all (by decide)
    exact htab.append ((quiet_of_isWord h.name).append hblank)
  rw [fieldLine_eq, fieldTags_eq]
  cases hcomment : field.comment with
  | none =>
      have hline := inert_type h.dataType hbefore
        (quiet_bracketed_flagTags field.unique field.primaryKey field.nullable)
      simpa using hline
  | some comment =>
      have hline := ((inert_type h.dataType hbefore (quiet_leading_flagTags field.unique
        field.primaryKey field.nullable)).quoted comment.toList).bracket
      rw [Option.map_some, Option.toList_some, bracketed_quotedTag]
      simpa using hline

theorem inert_note (comment : List Char) :
    Inert ('\t' :: (word "Note: " ++ quote comment)) := by
  have hword : Quiet ('\t' :: word "Note: ") := quiet_of_all (by decide)
  exact hword.inert.quoted comment

end SchemaText

end SchemaDiagram
