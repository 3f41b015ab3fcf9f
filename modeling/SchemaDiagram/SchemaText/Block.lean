import SchemaDiagram.SchemaText.Quote
import SchemaDiagram.SchemaText.Occurrence

/-!
# Blocks

A table block runs from the keyword `Table` and a name to the brace that closes the one behind the
name.  Quoted braces do not count.  A head whose brace is never closed opens no block.
-/

namespace SchemaDiagram.SchemaText

open SchemaDiagram.Text

/-- The position of the first unquoted closing brace that brings the number of open braces down to
zero, where `depth` braces are open in front of the text. -/
def closingBraceFrom (state : QuoteState) (depth : Nat) : List Char → Option Nat
  | [] => none
  | c :: rest =>
    let (next, quoted) := state.step c
    if quoted then (closingBraceFrom next depth rest).map (· + 1)
    else if c = '\x7b' then (closingBraceFrom next (depth + 1) rest).map (· + 1)
    else if c = '\x7d' then
      if depth ≤ 1 then some 0 else (closingBraceFrom next (depth - 1) rest).map (· + 1)
    else (closingBraceFrom next depth rest).map (· + 1)

/-- The position of the brace that closes the one at the front of a text. -/
def closingBrace? (text : List Char) : Option Nat :=
  closingBraceFrom .outside 0 text

def tableKeyword : List Char := ['T', 'a', 'b', 'l', 'e']

def indexesKeyword : List Char := ['I', 'n', 'd', 'e', 'x', 'e', 's']

/-- The name in the head of a table block, and the text from the opening brace on. -/
def takeTableHead? (text : List Char) : Option (List Char × List Char) := do
  let rest ← afterPrefix? tableKeyword text
  guard (rest.head?.any isBlank)
  let (name, rest) ← takeWord? (trimStart rest)
  let rest := trimStart rest
  guard (rest.head? == some '\x7b')
  return (name, rest)

/-- A table block: its name and the text between its braces, within the text of the whole block. -/
structure Block where
  name : List Char
  body : List Char
  text : List Char
  deriving DecidableEq, Repr

/-- A table block at the front of a text. -/
def takeBlock? : Recogniser Block := fun previous text => do
  guard (isBoundary previous)
  let (name, opened) ← takeTableHead? text
  let close ← closingBrace? opened
  let rest := opened.drop (close + 1)
  return (⟨name, (opened.take close).drop 1, text.take (text.length - rest.length)⟩, rest)

/-- The text cut at its table blocks. -/
def blocks (text : List Char) : Occurrences Block :=
  Occurrences.ofText takeBlock? text

/-- The opening brace of an index block, and what follows it. -/
def takeIndexesHead? (text : List Char) : Option (List Char) := do
  let rest ← afterPrefix? indexesKeyword text
  let rest := trimStart rest
  guard (rest.head? == some '\x7b')
  return rest

/-- The part of a table's body in front of its first unquoted index block, and the text from the
opening brace of that block on. -/
def splitAtIndexes? (state : QuoteState) (previous : Option Char) :
    List Char → Option (List Char × List Char)
  | [] => none
  | c :: rest =>
    let head :=
      if isBoundary previous && !state.isInside then takeIndexesHead? (c :: rest) else none
    match head with
    | some opened => some ([], opened)
    | none =>
      (splitAtIndexes? (state.step c).1 (some c) rest).map fun (before, opened) =>
        (c :: before, opened)

/-- What stands between an opening brace and the one that closes it, or else the end of the text. -/
def blockBody (opened : List Char) : List Char :=
  (opened.take ((closingBrace? opened).getD opened.length)).drop 1

/-- The part of a table's body that declares fields, and the body of its index block if it has
one. -/
def splitBody (body : List Char) : List Char × Option (List Char) :=
  match splitAtIndexes? .outside none body with
  | some (fields, opened) => (fields, some (blockBody opened))
  | none => (body, none)

end SchemaDiagram.SchemaText
