import SchemaDiagram.Proofs.SchemaText.Occurrence
import SchemaDiagram.Proofs.SchemaText.Quote
import SchemaDiagram.SchemaText.Generator
import SchemaDiagram.SchemaText.Parser

/-!
# Tags are read back

The tags of a field or an index stand in brackets at the end of a line: some fixed words, and at
last a quoted value.  The value is taken out first, whatever it holds, and the fixed words are read
from what is left.
-/

namespace SchemaDiagram.SchemaText

open SchemaDiagram.Text

/-! ## Brackets -/

theorem skipInline_blank_cons {c : Char} (h : isInlineBlank c = true) (rest : List Char) :
    skipInline (c :: rest) = skipInline rest := by
  rw [skipInline, skipInline, List.dropWhile_cons_of_pos h]

theorem skipInline_of_head {text : List Char} (h : text.head?.any isInlineBlank = false) :
    skipInline text = text :=
  dropWhile_of_head h

/-- The tags between the brackets at the end of a line. -/
theorem tagsAtEnd?_brackets (tags : List Char) :
    tagsAtEnd? ('[' :: (tags ++ [']'])) = some tags := by
  have hskip : skipInline ('[' :: (tags ++ [']'])) = '[' :: (tags ++ [']']) :=
    skipInline_of_head (by simp [isInlineBlank])
  have hreverse : (tags ++ [']']).reverse = ']' :: tags.reverse := by simp
  rw [tagsAtEnd?, hskip]
  simp only [hreverse]
  exact congrArg some tags.reverse_reverse

theorem tagsAtEnd?_bracketed (tags : List (List Char)) :
    tagsAtEnd? (bracketed tags) = some (joinWith (word ", ") tags) := by
  cases tags with
  | nil => rfl
  | cons tag tags =>
      have hbrackets := tagsAtEnd?_brackets (joinWith (word ", ") (tag :: tags))
      rw [tagsAtEnd?] at hbrackets ⊢
      simpa [bracketed, skipInline_blank_cons, isInlineBlank] using hbrackets

/-! ## Tags with a quoted value -/

theorem afterPrefixIgnoringCase?_append {keyword written : List Char}
    (h : written.map Char.toLower = keyword) (rest : List Char) :
    afterPrefixIgnoringCase? keyword (written ++ rest) = some rest := by
  subst h
  induction written with
  | nil => rfl
  | cons c written ih => simp [afterPrefixIgnoringCase?, ih]

/-- A keyword in any case with a quoted value is taken as a tag. -/
theorem takeTag?_append {keyword written : List Char} (h : written.map Char.toLower = keyword)
    (value rest : List Char) :
    takeTag? keyword (written ++ ':' :: ' ' :: (quote value ++ rest)) =
      some (value.flatMap quoteChar, rest) := by
  have hcolon : skipInline (':' :: ' ' :: (quote value ++ rest)) =
      ':' :: ' ' :: (quote value ++ rest) := skipInline_of_head (by simp [isInlineBlank])
  have hblank : skipInline (' ' :: (quote value ++ rest)) = quote value ++ rest := by
    rw [skipInline_blank_cons (by decide)]
    exact skipInline_of_head (by simp [quote, isInlineBlank])
  simp [takeTag?, afterPrefixIgnoringCase?_append h, hcolon, afterChar?, hblank,
    takeQuoted?_quote]

/-- A quoted text stays on its line, whatever it holds.  A scanner that enters it from outside of
strings finds all of it quoted and leaves it with its string closed.  The strings that are taken in
front of the rest of a line are the contents between two quotes of a kind; what stands between the
outer quotes of a quoted text is the one content that it can be taken with, it is the value of a tag
with any keyword, and unescaping it gives the text again. -/
theorem quote_reversible (text : List Char) :
    ∃ content, quote text = '\x27' :: (content ++ ['\x27']) ∧
      ('\n' ∉ quote text ∧ '\r' ∉ quote text ∧ '\t' ∉ quote text) ∧
      (QuoteState.outside.marks (quote text) = List.replicate (quote text).length true ∧
        QuoteState.outside.run (quote text) = .outside) ∧
      (∀ line other rest, '\n' ∉ line → (takeQuoted? line = some (other, rest) ↔ ∃ mark,
        isQuote mark = true ∧ IsContent mark other ∧ line = mark :: (other ++ mark :: rest))) ∧
      (IsContent '\x27' content ∧ ∀ other rest behind, IsContent '\x27' other →
        quote text ++ rest = '\x27' :: (other ++ '\x27' :: behind) →
          other = content ∧ behind = rest) ∧
      (∀ keyword written rest, written.map Char.toLower = keyword →
        takeTag? keyword (written ++ ':' :: ' ' :: (quote text ++ rest)) = some (content, rest)) ∧
      unescape content = text := by
  refine ⟨text.flatMap quoteChar, rfl, ?_, scan_quote text, fun _ _ _ => takeQuoted?_eq_some_iff,
    ⟨isContent_quoteChars text, ?_⟩, ?_, unescape_quoteChars text⟩
  · exact ⟨not_mem_quote (.inl rfl) text, not_mem_quote (.inr (.inl rfl)) text,
      not_mem_quote (.inr (.inr rfl)) text⟩
  · exact fun other rest behind => content_of_quote_append
  · exact fun keyword written rest hwritten => takeTag?_append hwritten text rest

/-- A text of a backslash, a quote, a line break and a backslash at its end, in the note of a
field. -/
theorem quote_reversible_backslashes :
    let text := ['\\', '\x27', '\n', '\\']
    ∃ content, takeTag? noteKeyword (word "Note" ++ ':' :: ' ' :: (quote text ++ [']'])) =
        some (content, [']']) ∧
      (∀ other, IsContent '\x27' other → quote text = '\x27' :: (other ++ ['\x27']) →
        other = content) ∧
      unescape content = text := by
  intro text
  obtain ⟨content, -, -, -, -, ⟨-, hunique⟩, htag, hunescape⟩ := quote_reversible text
  refine ⟨content, htag noteKeyword (word "Note") [']'] (by decide), ?_, hunescape⟩
  intro other hother heq
  refine (hunique other [] [] hother ?_).1
  rw [List.append_nil, heq]

/-- Whether a text agrees with a keyword as far as both go, case aside. -/
def agrees : List Char → List Char → Bool
  | k :: keyword, c :: text => k == c.toLower && agrees keyword text
  | _, _ => true

theorem afterPrefixIgnoringCase?_of_not_agrees {keyword text : List Char}
    (h : agrees keyword text = false) (rest : List Char) :
    afterPrefixIgnoringCase? keyword (text ++ rest) = none := by
  induction keyword generalizing text with
  | nil => simp [agrees] at h
  | cons k keyword ih =>
      cases text with
      | nil => simp [agrees] at h
      | cons c text =>
          rw [List.cons_append, afterPrefixIgnoringCase?]
          split
          · next heq =>
              rw [agrees, heq, Bool.true_and] at h
              exact ih h
          · rfl

/-- Whether no tag with a keyword starts in a text. -/
def isTagless (keyword : List Char) : Option Char → List Char → Bool
  | _, [] => true
  | previous, c :: text =>
    (!isBoundary previous || !agrees keyword (c :: text)) && isTagless keyword (some c) text

theorem skips_of_isTagless {keyword text : List Char} {previous : Option Char}
    (h : isTagless keyword previous text = true) (rest : List Char) :
    Occurrences.Skips (tagRecogniser keyword) rest previous text := by
  induction text generalizing previous with
  | nil => trivial
  | cons c text ih =>
      simp only [isTagless, Bool.and_eq_true, Bool.or_eq_true, Bool.not_eq_true'] at h
      refine ⟨?_, ih h.2⟩
      rw [tagRecogniser]
      rcases h.1 with hboundary | hagrees
      · rw [hboundary]
        rfl
      · split
        · rw [takeTag?, afterPrefixIgnoringCase?_of_not_agrees hagrees]
          rfl
        · rfl

/-- The value of the tag behind other tags. -/
theorem extractTag_append {keyword tags : List Char} (htags : isTagless keyword none tags = true)
    (hboundary : isBoundary (Occurrences.lastOf none tags) = true) {written : List Char}
    (hwritten : written.map Char.toLower = keyword) (hnonempty : written ≠ [])
    (value : List Char) :
    extractTag keyword (tags ++ (written ++ ':' :: ' ' :: quote value)) =
      (some value, tags) := by
  have htake : tagRecogniser keyword (Occurrences.lastOf none tags)
      ((written ++ ':' :: ' ' :: quote value) ++ []) = some (value.flatMap quoteChar, []) := by
    have htag := takeTag?_append hwritten value []
    rw [tagRecogniser, if_pos hboundary]
    simpa using htag
  have hfind := Occurrences.find_append_of_some (by simp [hnonempty]) htake
  rw [List.append_nil, Occurrences.find_nil] at hfind
  rw [extractTag, Occurrences.ofText,
    Occurrences.find_append_of_skips (skips_of_isTagless htags _), hfind]
  simp [Occurrences.item, Occurrences.items, Occurrences.pieces, unescape_quoteChars]

theorem extractTag_of_isTagless {keyword tags : List Char}
    (htags : isTagless keyword none tags = true) : extractTag keyword tags = (none, tags) := by
  have hfind := Occurrences.find_append_of_skips (skips_of_isTagless htags [])
  rw [List.append_nil, Occurrences.find_nil] at hfind
  rw [extractTag, Occurrences.ofText, hfind]
  simp [Occurrences.items, Occurrences.pieces]

/-! ## The tags of a field -/

/-- The tags of a field that are fixed words. -/
def flagTags (unique primaryKey nullable : Bool) : List (List Char) :=
  (if unique && !primaryKey then [word "unique"] else []) ++
  (if primaryKey then [word "primary key"] else []) ++
  (if nullable then [word "null"] else [])

theorem fieldTags_eq (field : Field) :
    fieldTags field = flagTags field.unique field.primaryKey field.nullable ++
      (field.comment.map (quotedTag "note")).toList := rfl

/-- Tags in front of another one. -/
def leading (tags : List (List Char)) : List Char :=
  tags.flatMap (· ++ word ", ")

theorem joinWith_concat (tags : List (List Char)) (last : List Char) :
    joinWith (word ", ") (tags ++ [last]) = leading tags ++ last := by
  induction tags with
  | nil => simp [joinWith, leading]
  | cons tag tags ih =>
      rw [List.cons_append, joinWith_cons _ _ (by simp), ih, leading, leading, List.flatMap_cons,
        List.append_assoc, List.append_assoc]

theorem isTagless_flagTags (unique primaryKey nullable : Bool) :
    isTagless noteKeyword none
        (joinWith (word ", ") (flagTags unique primaryKey nullable)) = true ∧
      isTagless noteKeyword none (leading (flagTags unique primaryKey nullable)) = true ∧
      isBoundary (Occurrences.lastOf none
        (leading (flagTags unique primaryKey nullable))) = true := by
  revert unique primaryKey nullable
  decide

theorem fieldFlags_flagTags (unique primaryKey nullable : Bool) :
    fieldFlags (joinWith (word ", ") (flagTags unique primaryKey nullable)) =
        ⟨primaryKey, unique && !primaryKey, nullable⟩ ∧
      fieldFlags (leading (flagTags unique primaryKey nullable)) =
        ⟨primaryKey, unique && !primaryKey, nullable⟩ := by
  cases unique <;> cases primaryKey <;> cases nullable <;> exact ⟨rfl, rfl⟩

/-- The note of a field and its flags are read back from its tags. -/
theorem extractTag_fieldTags (field : Field) :
    ∃ rest, extractTag noteKeyword (joinWith (word ", ") (fieldTags field)) =
        (field.comment.map String.toList, rest) ∧
      fieldFlags rest =
        ⟨field.primaryKey, field.unique && !field.primaryKey, field.nullable⟩ := by
  obtain ⟨hplain, hleading, hboundary⟩ :=
    isTagless_flagTags field.unique field.primaryKey field.nullable
  obtain ⟨hflags, hflagsLeading⟩ :=
    fieldFlags_flagTags field.unique field.primaryKey field.nullable
  rw [fieldTags_eq]
  cases field.comment with
  | none =>
      rw [Option.map_none, Option.toList_none, List.append_nil]
      exact ⟨_, extractTag_of_isTagless hplain, hflags⟩
  | some comment =>
      have htag : quotedTag "note" comment =
          word "note" ++ ':' :: ' ' :: quote comment.toList := by
        simp [quotedTag, word]
      rw [Option.map_some, Option.toList_some, joinWith_concat, htag]
      exact ⟨_, extractTag_append hleading hboundary (by decide) (by decide) _, hflagsLeading⟩

end SchemaDiagram.SchemaText
