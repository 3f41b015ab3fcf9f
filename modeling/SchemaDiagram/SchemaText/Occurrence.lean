import SchemaDiagram.Text.Word

/-!
# Occurrences

A recogniser looks for one construct at the front of a text and is told the character in front of
it.  Collecting its occurrences from left to right cuts a text into the constructs found and the
pieces between them, without loss.
-/

namespace SchemaDiagram.SchemaText

/-- A function that finds a construct at the front of a text, given the character before it, and
returns the rest of the text. -/
abbrev Recogniser (α : Type) := Option Char → List Char → Option (α × List Char)

/-- A text cut at the constructs found in it: each one with the plain text in front of it, and the
plain text behind the last one. -/
structure Occurrences (α : Type) where
  found : List (List Char × α)
  tail : List Char

namespace Occurrences

variable {α : Type}

/-- Put a plain character in front. -/
def plain (c : Char) (rest : Occurrences α) : Occurrences α :=
  match rest.found with
  | [] => { rest with tail := c :: rest.tail }
  | (before, item) :: more => { rest with found := (c :: before, item) :: more }

/-- Put a construct in front. -/
def item (value : α) (rest : Occurrences α) : Occurrences α :=
  { rest with found := ([], value) :: rest.found }

/-- The constructs in order. -/
def items (occurrences : Occurrences α) : List α :=
  occurrences.found.map Prod.snd

/-- The pieces of plain text in order; there is one more of them than constructs. -/
def pieces (occurrences : Occurrences α) : List (List Char) :=
  occurrences.found.map Prod.fst ++ [occurrences.tail]

/-- The last character of the part of a text in front of its rest. -/
def lastBefore (text rest : List Char) : Option Char :=
  (text.take (text.length - rest.length)).getLast?

/-- All occurrences of a construct.  A recogniser that consumes nothing counts as failing. -/
def find (recognise : Recogniser α) (previous : Option Char) (text : List Char) : Occurrences α :=
  match text with
  | [] => ⟨[], []⟩
  | c :: rest =>
    match recognise previous (c :: rest) with
    | some (value, after) =>
      if _ : after.length < (c :: rest).length then
        item value (find recognise (lastBefore (c :: rest) after) after)
      else plain c (find recognise (some c) rest)
    | none => plain c (find recognise (some c) rest)
termination_by text.length
decreasing_by
  · assumption
  · exact Nat.lt_succ_self rest.length
  · exact Nat.lt_succ_self rest.length

/-- All occurrences of a construct in a whole text. -/
def ofText (recognise : Recogniser α) (text : List Char) : Occurrences α :=
  find recognise none text

end Occurrences

end SchemaDiagram.SchemaText
