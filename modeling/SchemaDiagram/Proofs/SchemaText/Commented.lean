import SchemaDiagram.Proofs.SchemaText.Seams

/-!
# Comments and line breaks mean nothing

A comment at the end of a line is cut off together with its slashes, so that nothing behind the
parser's first step can tell whether there was one.  Only where it makes up a line of its own at the
end of the text does it leave an empty line, which declares nothing.  Carriage returns in front of
line feeds are dropped with the line breaks.
-/

namespace SchemaDiagram.SchemaText

open SchemaDiagram.Text

/-! ## Cutting a comment off -/

/-- A comment is cut off a line that does not end in a string or a slash. -/
theorem cutComment_comment {state : QuoteState} {line : List Char}
    (hquotes : state.run line = .outside) (hslash : line.getLast? ≠ some '/')
    (comment : List Char) :
    cutComment state (line ++ '/' :: '/' :: comment) = cutComment state line := by
  induction line generalizing state with
  | nil =>
      obtain rfl : state = .outside := hquotes
      rfl
  | cons c line ih =>
      have hrest : line.getLast? ≠ some '/' := by
        cases line with
        | nil => simp
        | cons d line => rwa [List.getLast?_cons_cons] at hslash
      have hnext : (c == '/' && (line ++ '/' :: '/' :: comment).head? == some '/') =
          (c == '/' && line.head? == some '/') := by
        cases line with
        | nil =>
            have hc : c ≠ '/' := fun heq => hslash (congrArg some heq)
            simp [hc]
        | cons d line => rfl
      rw [List.cons_append, cutComment, cutComment, Bool.and_assoc, Bool.and_assoc, hnext,
        ih hquotes hrest]

/-- A carriage return at the end of a comment is part of the comment. -/
theorem dropReturn_comment (line comment : List Char) :
    dropReturn (line ++ '/' :: '/' :: comment) = line ++ '/' :: '/' :: dropReturn comment := by
  rcases List.eq_nil_or_concat' comment with rfl | ⟨front, c, rfl⟩
  · simp [dropReturn]
  · have hsplit : line ++ '/' :: '/' :: (front ++ [c]) = (line ++ '/' :: '/' :: front) ++ [c] := by
      simp
    rw [hsplit, dropReturn, dropReturn, List.getLast?_concat, List.getLast?_concat,
      List.dropLast_concat, List.dropLast_concat]
    split <;> simp

section Comment

variable {comment rest : List Char}

/-- A comment in the first line of a text is stripped. -/
theorem stripComments_comment_first {line : List Char} (hfeed : '\n' ∉ line)
    (hreturn : '\r' ∉ line) (hquotes : QuoteState.outside.run line = .outside)
    (hslash : line.getLast? ≠ some '/') (hcomment : '\n' ∉ comment)
    (hrest : rest = [] ∨ rest.head? = some '\n') :
    stripComments (line ++ '/' :: '/' :: (comment ++ rest)) = stripComments (line ++ rest) := by
  have hbroken : '\n' ∉ line ++ '/' :: '/' :: comment := by simp [hfeed, hcomment]
  have hcut := fun comment => cutComment_comment hquotes hslash comment
  rcases hrest with rfl | hhead
  · rw [List.append_nil, List.append_nil, stripComments_of_not_mem hbroken,
      stripComments_of_not_mem hfeed, hcut]
  · obtain ⟨more, rfl⟩ := List.head?_eq_some_iff.mp hhead
    have hdrop := dropReturn_of_not_mem hreturn
    have hlines : cutLines (line ++ '/' :: '/' :: comment) = cutLines line := by
      rw [cutLines_line hbroken, cutLines_line hfeed, dropReturn_comment, hcut, hdrop]
    have hassoc : line ++ '/' :: '/' :: (comment ++ '\n' :: more) =
        (line ++ '/' :: '/' :: comment) ++ '\n' :: more := by simp
    by_cases hmore : more = []
    · rw [hassoc, hmore, stripComments_feed_nil, stripComments_feed_nil, hlines]
    · rw [hassoc, stripComments_feed _ hmore, stripComments_feed _ hmore, hlines]

/-- A comment anywhere in a text is stripped, but it may leave an empty line at the end. -/
theorem stripComments_comment {front : List Char} (hreturn : '\r' ∉ front)
    (hquotes : QuoteState.outside.run (lastLine front) = .outside)
    (hslash : (lastLine front).getLast? ≠ some '/') (hcomment : '\n' ∉ comment)
    (hrest : rest = [] ∨ rest.head? = some '\n') :
    stripComments (front ++ '/' :: '/' :: (comment ++ rest)) = stripComments (front ++ rest) ∨
      stripComments (front ++ '/' :: '/' :: (comment ++ rest)) =
        stripComments (front ++ rest) ++ ['\n'] := by
  have hfirst : ∀ line, '\r' ∉ line → line = lastLine front →
      stripComments (line ++ '/' :: '/' :: (comment ++ rest)) = stripComments (line ++ rest) := by
    rintro line hline rfl
    exact stripComments_comment_first (not_mem_lastLine front) hline hquotes hslash hcomment hrest
  obtain hline | ⟨above, habove⟩ := lastLine_cases front
  · exact .inl (hfirst front hreturn hline)
  · have hline : '\r' ∉ lastLine front := by
      intro hmem
      rw [habove] at hreturn
      exact hreturn (by simp [hmem])
    have hstripped := hfirst _ hline rfl
    generalize lastLine front = line at habove hstripped
    subst habove
    have hcommented : line ++ '/' :: '/' :: (comment ++ rest) ≠ [] := by simp
    rw [List.append_assoc, List.append_assoc, List.cons_append, List.cons_append,
      stripComments_feed above hcommented, hstripped]
    by_cases hempty : line ++ rest = []
    · right
      rw [hempty, stripComments_feed_nil]
      rfl
    · left
      rw [stripComments_feed above hempty]

end Comment

/-! ## An empty line at the end -/

theorem parsePlain_concat_feed (dialect : Dialect) (text : List Char) :
    parsePlain dialect (text ++ ['\n']) = parsePlain dialect text := by
  have hblocks : blocks (text ++ ['\n']) =
      (blocks text).append (Occurrences.plain '\n' (blocks [])) := by
    have hnil : blocks [] = Occurrences.find takeBlock? (some '\n') [] := by
      rw [blocks, Occurrences.ofText, Occurrences.find_nil, Occurrences.find_nil]
    rw [hnil]
    exact Occurrences.find_append unaffected_takeBlock? takeBlock?_nil none text
  rw [parsePlain_feed dialect hblocks, parsePlain_nil, List.append_nil, List.append_nil]

/-! ## Carriage returns -/

/-- A text with a carriage return in front of every line feed. -/
def withReturns (text : List Char) : List Char :=
  text.flatMap fun c => if c = '\n' then ['\r', '\n'] else [c]

theorem withReturns_of_not_mem {line : List Char} (h : '\n' ∉ line) : withReturns line = line := by
  induction line with
  | nil => rfl
  | cons c line ih =>
      rw [List.mem_cons, not_or] at h
      rw [withReturns, List.flatMap_cons, if_neg (Ne.symm h.1)]
      exact congrArg (c :: ·) (ih h.2)

theorem withReturns_feed (first second : List Char) :
    withReturns (first ++ '\n' :: second) =
      (withReturns first ++ ['\r']) ++ '\n' :: withReturns second := by
  simp [withReturns]

/-- The lines of a text end where they end without carriage returns. -/
theorem lines_withReturns {text : List Char} (h : '\r' ∉ text) :
    lines (withReturns text) = lines text := by
  -- By induction on the lines, the first of which is followed by the first line break.
  induction hlength : text.length using Nat.strong_induction_on generalizing text with
  | _ length ih =>
    by_cases hfeed : '\n' ∈ text
    · obtain ⟨line, rest, rfl, hline⟩ := List.eq_append_cons_of_mem hfeed
      rw [List.mem_append, not_or, List.mem_cons, not_or] at h
      obtain ⟨hreturn, -, hrest⟩ := h
      have hshorter : rest.length < length := by
        rw [← hlength, List.length_append, List.length_cons]
        omega
      have hcut : dropReturn (line ++ ['\r']) = dropReturn line := by
        rw [dropReturn_of_not_mem hreturn, dropReturn, List.getLast?_concat, if_pos rfl,
          List.dropLast_concat]
      have hbroken : '\n' ∉ line ++ ['\r'] := by simp [hline]
      rw [withReturns_feed, withReturns_of_not_mem hline, lines_feed, lines_feed,
        ih _ hshorter hrest rfl, splitAt_of_not_mem hbroken, splitAt_of_not_mem hline,
        List.map_singleton, List.map_singleton, hcut]
    · rw [withReturns_of_not_mem hfeed]

/-! ## What a text declares -/

/-- Comments and line endings do not matter: neither a comment at the end of a line that ends
outside of strings and not in a slash, nor carriage returns in front of all line feeds change what a
text declares. -/
theorem parse_comment_and_returns (dialect : Dialect) :
    (∀ front comment rest : String,
      '\r' ∉ (front ++ rest).toList →
      (rest = "" ∨ rest.toList.head? = some '\n') →
      QuoteState.outside.run (lastLine front.toList) = .outside →
      (lastLine front.toList).getLast? ≠ some '/' →
      '\n' ∉ comment.toList →
        parse dialect (front ++ "//" ++ comment ++ rest) = parse dialect (front ++ rest)) ∧
    (∀ text : String, '\r' ∉ text.toList →
      parse dialect (String.ofList (withReturns text.toList)) = parse dialect text) := by
  constructor
  · intro front comment rest hreturn hrest hquotes hslash hcomment
    have hfront : '\r' ∉ front.toList := by
      intro hmem
      exact hreturn (by rw [String.toList_append]; exact List.mem_append_left _ hmem)
    have hbehind : rest.toList = [] ∨ rest.toList.head? = some '\n' :=
      hrest.imp_left fun hnone => by rw [hnone]; rfl
    have htext : (front ++ "//" ++ comment ++ rest).toList =
        front.toList ++ '/' :: '/' :: (comment.toList ++ rest.toList) := by
      simp [String.toList_append]
    obtain hsame | hmore := stripComments_comment hfront hquotes hslash hcomment hbehind
    · rw [parse, parse, htext, hsame, String.toList_append]
    · rw [parse, parse, htext, hmore, parsePlain_concat_feed, String.toList_append]
  · intro text hreturn
    rw [parse, parse, String.toList_ofList, stripComments, stripComments,
      lines_withReturns hreturn]

theorem parse_commented_table :
    parse .generic ("Table a \x7b\n\tid int " ++ "//" ++ " it's \x7d Rel b: N a.x, 1 a.id" ++
        "\n\x7d") = parse .generic ("Table a \x7b\n\tid int " ++ "\n\x7d") ∧
      parse .generic (String.ofList (withReturns "Table a \x7b\n\tid int\n\x7d".toList)) =
        parse .generic "Table a \x7b\n\tid int\n\x7d" := by
  obtain ⟨hcomment, hreturns⟩ := parse_comment_and_returns .generic
  exact ⟨hcomment _ _ _ (by decide) (.inr (by decide)) (by decide) (by decide) (by decide),
    hreturns _ (by decide)⟩

end SchemaDiagram.SchemaText
