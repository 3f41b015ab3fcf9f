import SchemaDiagram.Proofs.SchemaText.Segments
import SchemaDiagram.Proofs.SchemaText.Tags

/-!
# Relationships are read back

Relationships stand one below the other behind the last table.  The line of one holds words and
fixed marks only, so that it is taken whole, and it declares the relationship between the named
ends.  A relationship with an end that refers to nothing has no line.
-/

namespace SchemaDiagram

open SchemaDiagram.Text

variable {κ : Type}

/-- A relationship as its line declares it; nothing if one of its ends refers to nothing. -/
def Relationship.declared? (tables : List (Table κ)) (relationship : Relationship) :
    Option RelationshipDeclaration := do
  let (sourceTable, sourceField) ← ContentHash.endNames? tables relationship.source
  let (targetTable, targetField) ← ContentHash.endNames? tables relationship.target
  let hash ← ContentHash.ofRelationship? relationship tables
  return {
    name := relationship.name
    sourceTable := sourceTable
    sourceField := sourceField
    targetTable := targetTable
    targetField := targetField
    sourceCardinality := relationship.sourceCardinality
    targetCardinality := relationship.targetCardinality
    contentHash := hash
    existingId := none }

namespace SchemaText

/-! ## One line -/

/-- The line of a relationship between named ends. -/
def relationshipText (relationship : Relationship) (source target : String × String) :
    List Char :=
  relationshipKeyword ++ ' ' :: (relationship.name.toList ++
    ':' :: ' ' :: (relationship.sourceCardinality.mark.toList ++
      ' ' :: (source.1.toList ++ '.' :: (source.2.toList ++
        ',' :: ' ' :: (relationship.targetCardinality.mark.toList ++
          ' ' :: (target.1.toList ++ '.' :: target.2.toList))))))

theorem relationshipLine?_eq (tables : List (Table κ)) (relationship : Relationship) :
    relationshipLine? tables relationship =
      (ContentHash.endNames? tables relationship.source).bind fun source =>
        (ContentHash.endNames? tables relationship.target).map fun target =>
          relationshipText relationship source target := by
  rw [relationshipLine?, endText?, endText?]
  cases ContentHash.endNames? tables relationship.source with
  | none => rfl
  | some source =>
      cases ContentHash.endNames? tables relationship.target with
      | none => rfl
      | some target => simp [relationshipText, relationshipKeyword, word]

/-- A pair of words. -/
def AreWords (names : String × String) : Prop :=
  isWord names.1.toList = true ∧ isWord names.2.toList = true

/-- The names of ends are names of tables and fields. -/
theorem areWords_endNames {tables : List (Table κ)}
    (h : ∀ table ∈ tables, isWord table.name.toList = true ∧
      ∀ field ∈ table.fields, isWord field.name.toList = true)
    {endpoint : Endpoint} {names : String × String}
    (hnames : ContentHash.endNames? tables endpoint = some names) : AreWords names := by
  obtain ⟨table, htable, hfield⟩ := Option.bind_eq_some_iff.mp hnames
  obtain ⟨field, hfind, hpure⟩ := Option.bind_eq_some_iff.mp hfield
  obtain rfl := Option.some.inj hpure
  obtain ⟨hname, hfields⟩ := h table (List.mem_of_find?_eq_some htable)
  exact ⟨hname, hfields field (List.mem_of_find?_eq_some hfind)⟩

/-- The mark of a cardinality runs up to the blank behind it. -/
theorem mark_cut (cardinality : Cardinality) (rest : List Char) :
    (cardinality.mark.toList ++ ' ' :: rest).takeWhile (fun c => isWordChar c || c == '*') =
        cardinality.mark.toList ∧
      (cardinality.mark.toList ++ ' ' :: rest).dropWhile (fun c => isWordChar c || c == '*') =
        ' ' :: rest ∧
      cardinality.mark.toList.isEmpty = false := by
  cases cardinality <;> exact ⟨rfl, rfl, rfl⟩

theorem ofMark_mark (cardinality : Cardinality) :
    Cardinality.ofMark cardinality.mark = cardinality := by
  cases cardinality <;> decide

theorem skipInlineSome?_word {text : List Char} (h : isWord text = true) (rest : List Char) :
    skipInlineSome? (' ' :: (text ++ rest)) = some (text ++ rest) := by
  obtain ⟨c, more, rfl, hc⟩ := exists_of_isWord h
  have hskip : skipInline (c :: more ++ rest) = c :: more ++ rest :=
    skipInline_of_head (by simpa using isInlineBlank_of_isWordChar hc)
  have hblank : Option.any isInlineBlank (' ' :: (c :: more ++ rest)).head? = true := rfl
  rw [skipInlineSome?, if_pos hblank, skipInline_blank_cons (by decide), hskip]

/-- One end of a relationship is taken up to the end of its field's name. -/
theorem takeEnd?_append (cardinality : Cardinality) {names : String × String}
    (h : AreWords names) {rest : List Char} (hrest : rest.head?.any isWordChar = false) :
    takeEnd? (cardinality.mark.toList ++
        ' ' :: (names.1.toList ++ '.' :: (names.2.toList ++ rest))) =
      some (⟨cardinality.mark.toList, names.1.toList, names.2.toList⟩, rest) := by
  obtain ⟨htake, hdrop, hnonempty⟩ :=
    mark_cut cardinality (names.1.toList ++ '.' :: (names.2.toList ++ rest))
  have htable : takeWord? (names.1.toList ++ '.' :: (names.2.toList ++ rest)) =
      some (names.1.toList, '.' :: (names.2.toList ++ rest)) :=
    takeWord?_append h.1 rfl
  simp only [takeEnd?, htake, hdrop, hnonempty, skipInlineSome?_word h.1, htable, afterChar?,
    if_true, takeWord?_append h.2 hrest, Option.bind_eq_bind, Option.bind_some, Bool.not_false,
    guard_true, Option.pure_def]

/-- The line of a relationship is taken whole, and nothing behind it. -/
theorem takeRelationship?_text {relationship : Relationship} {source target : String × String}
    (hname : isWord relationship.name.toList = true) (hsource : AreWords source)
    (htarget : AreWords target) {previous : Option Char} (hprevious : isBoundary previous = true)
    {rest : List Char} (hrest : rest.head?.any isWordChar = false) :
    takeRelationship? previous (relationshipText relationship source target ++ rest) =
      some (⟨relationship.name.toList,
        ⟨relationship.sourceCardinality.mark.toList, source.1.toList, source.2.toList⟩,
        ⟨relationship.targetCardinality.mark.toList, target.1.toList, target.2.toList⟩⟩, rest) := by
  let targetText := relationship.targetCardinality.mark.toList ++
    ' ' :: (target.1.toList ++ '.' :: (target.2.toList ++ rest))
  let sourceText := relationship.sourceCardinality.mark.toList ++
    ' ' :: (source.1.toList ++ '.' :: (source.2.toList ++ ',' :: ' ' :: targetText))
  have htext : relationshipText relationship source target ++ rest =
      relationshipKeyword ++ ' ' :: (relationship.name.toList ++ ':' :: ' ' :: sourceText) := by
    simp [relationshipText, sourceText, targetText]
  have hmark : ∀ (cardinality : Cardinality) (more : List Char),
      skipInline (' ' :: (cardinality.mark.toList ++ more)) =
        cardinality.mark.toList ++ more := by
    intro cardinality more
    cases cardinality <;> rfl
  have hcolon : ∀ more, skipInline (':' :: more) = ':' :: more := fun _ => rfl
  have hcomma : ∀ more, skipInline (',' :: more) = ',' :: more := fun _ => rfl
  have hrel : takeWord? (relationship.name.toList ++ ':' :: ' ' :: sourceText) =
      some (relationship.name.toList, ':' :: ' ' :: sourceText) := takeWord?_append hname rfl
  have hsourceEnd : takeEnd? sourceText = some (⟨relationship.sourceCardinality.mark.toList,
      source.1.toList, source.2.toList⟩, ',' :: ' ' :: targetText) :=
    takeEnd?_append relationship.sourceCardinality hsource rfl
  have htargetEnd : takeEnd? targetText = some (⟨relationship.targetCardinality.mark.toList,
      target.1.toList, target.2.toList⟩, rest) :=
    takeEnd?_append relationship.targetCardinality htarget hrest
  have hskipSource : skipInline (' ' :: sourceText) = sourceText := hmark _ _
  have hskipTarget : skipInline (' ' :: targetText) = targetText := hmark _ _
  simp only [takeRelationship?, hprevious, htext, afterPrefix?_append, skipInlineSome?_word hname,
    hrel, hcolon, hcomma, afterChar?, if_true, hskipSource, hskipTarget, hsourceEnd, htargetEnd,
    Option.bind_eq_bind, Option.bind_some, guard_true, Option.pure_def]

/-- The statement of a line declares its relationship. -/
theorem declare_statement (relationship : Relationship) (source target : String × String) :
    RelationshipStatement.declare ⟨relationship.name.toList,
        ⟨relationship.sourceCardinality.mark.toList, source.1.toList, source.2.toList⟩,
        ⟨relationship.targetCardinality.mark.toList, target.1.toList, target.2.toList⟩⟩ =
      { name := relationship.name
        sourceTable := source.1
        sourceField := source.2
        targetTable := target.1
        targetField := target.2
        sourceCardinality := relationship.sourceCardinality
        targetCardinality := relationship.targetCardinality
        contentHash := ContentHash.ofEnds source.1 source.2 target.1 target.2
        existingId := none } := by
  simp only [RelationshipStatement.declare, String.ofList_toList, ofMark_mark]

theorem quiet_relationshipText {relationship : Relationship} {source target : String × String}
    (hname : isWord relationship.name.toList = true) (hsource : AreWords source)
    (htarget : AreWords target) : Quiet (relationshipText relationship source target) := by
  have hkeyword : Quiet (relationshipKeyword ++ [' ']) := quiet_of_all (by decide)
  have hcolon : Quiet [':', ' '] := quiet_of_all (by decide)
  have hblank : Quiet [' '] := quiet_of_all (by decide)
  have hpoint : Quiet ['.'] := quiet_of_all (by decide)
  have hcomma : Quiet [',', ' '] := quiet_of_all (by decide)
  have hmark : ∀ cardinality : Cardinality, Quiet cardinality.mark.toList := by
    intro cardinality
    apply quiet_of_all
    cases cardinality <;> decide
  have hend : ∀ names : String × String, AreWords names →
      Quiet (names.1.toList ++ (['.'] ++ names.2.toList)) := fun names h =>
    (quiet_of_isWord h.1).append (hpoint.append (quiet_of_isWord h.2))
  have hline := (hkeyword.append (quiet_of_isWord hname)).append (hcolon.append
    (((hmark relationship.sourceCardinality).append (hblank.append (hend source hsource))).append
      (hcomma.append
        ((hmark relationship.targetCardinality).append (hblank.append (hend target htarget))))))
  simpa [relationshipText] using hline

/-! ## All lines -/

theorem takeRelationship?_feed (previous : Option Char) (rest : List Char) :
    takeRelationship? previous ('\n' :: rest) = none := by
  simp only [takeRelationship?]
  cases isBoundary previous <;> rfl

/-- A relationship has a line and a declaration, or it has neither. -/
theorem line_and_declared {tables : List (Table κ)}
    (h : ∀ table ∈ tables, isWord table.name.toList = true ∧
      ∀ field ∈ table.fields, isWord field.name.toList = true) (relationship : Relationship) :
    (relationshipLine? tables relationship = none ∧ relationship.declared? tables = none) ∨
      ∃ source target, AreWords source ∧ AreWords target ∧
        relationshipLine? tables relationship =
          some (relationshipText relationship source target) ∧
        relationship.declared? tables =
          some (RelationshipStatement.declare ⟨relationship.name.toList,
            ⟨relationship.sourceCardinality.mark.toList, source.1.toList, source.2.toList⟩,
            ⟨relationship.targetCardinality.mark.toList, target.1.toList, target.2.toList⟩⟩) := by
  rw [relationshipLine?_eq, Relationship.declared?]
  cases hsource : ContentHash.endNames? tables relationship.source with
  | none => exact .inl ⟨rfl, rfl⟩
  | some source =>
      cases htarget : ContentHash.endNames? tables relationship.target with
      | none => exact .inl ⟨rfl, rfl⟩
      | some target =>
          have hhash : ContentHash.ofRelationship? relationship tables =
              some (ContentHash.ofEnds source.1 source.2 target.1 target.2) := by
            rw [ContentHash.ofRelationship?, hsource, htarget]
            rfl
          refine .inr ⟨source, target, areWords_endNames h hsource, areWords_endNames h htarget,
            rfl, ?_⟩
          rw [declare_statement, hhash]
          rfl

/-- The lines of relationships declare the relationships that have lines. -/
theorem items_relationshipLines {tables : List (Table κ)}
    (h : ∀ table ∈ tables, isWord table.name.toList = true ∧
      ∀ field ∈ table.fields, isWord field.name.toList = true)
    {relationships : List Relationship}
    (hnames : ∀ relationship ∈ relationships, isWord relationship.name.toList = true)
    {previous : Option Char} (hprevious : isBoundary previous = true) :
    (Occurrences.find takeRelationship? previous (joinWith ['\n']
        (relationships.filterMap (relationshipLine? tables)))).items.map
          RelationshipStatement.declare =
      relationships.filterMap (Relationship.declared? tables) := by
  induction relationships generalizing previous with
  | nil =>
      rw [List.filterMap_nil, List.filterMap_nil]
      change (Occurrences.find takeRelationship? previous []).items.map _ = _
      rw [Occurrences.find_nil]
      rfl
  | cons relationship relationships ih =>
      have hmore : ∀ last, isBoundary last = true →
          (Occurrences.find takeRelationship? last (joinWith ['\n']
            (relationships.filterMap (relationshipLine? tables)))).items.map
              RelationshipStatement.declare =
            relationships.filterMap (Relationship.declared? tables) := fun last hlast =>
        ih (fun other hother => hnames other (List.mem_cons_of_mem _ hother)) hlast
      obtain ⟨hline, hdeclared⟩ | ⟨source, target, hsource, htarget, hline, hdeclared⟩ :=
        line_and_declared h relationship
      · rw [List.filterMap_cons_none hline, List.filterMap_cons_none hdeclared]
        exact hmore previous hprevious
      · have hname := hnames relationship List.mem_cons_self
        have htake := fun rest hrest => takeRelationship?_text hname hsource htarget hprevious
          (show Option.any isWordChar (List.head? rest) = false from hrest)
        have hnonempty : relationshipText relationship source target ≠ [] := by
          simp [relationshipText, relationshipKeyword]
        rw [List.filterMap_cons_some hline, List.filterMap_cons_some hdeclared]
        by_cases hlines : relationships.filterMap (relationshipLine? tables) = []
        · have hdeclaredMore := hmore none rfl
          rw [hlines] at hdeclaredMore ⊢
          have hfind := Occurrences.find_append_of_some hnonempty (htake [] rfl)
          rw [List.append_nil] at hfind
          rw [joinWith_singleton, hfind, ← hdeclaredMore, Occurrences.find_nil]
          change _ = _ :: (Occurrences.find takeRelationship? none []).items.map _
          rw [Occurrences.find_nil]
          rfl
        · rw [joinWith_cons _ _ hlines, Occurrences.find_append_of_some hnonempty (htake _ rfl),
            List.singleton_append, Occurrences.find_cons_of_none (takeRelationship?_feed _ _),
            Occurrences.items_item, Occurrences.items_plain, List.map_cons,
            hmore (some '\n') rfl]

end SchemaText

end SchemaDiagram
