import SchemaDiagram.Text.Blank
import SchemaDiagram.Text.WordRanges

/-!
# Words

A name in schema text is a word: a non-empty run of letters, marks, digits, connectors and joiners
of any script.  Blanks, quotes, brackets and separators never belong to a word.
-/

namespace SchemaDiagram.Text

def isWordChar (c : Char) : Bool :=
  if c.toNat < 0x80 then c.isAlphanum || c == '_'
  else inRanges wordRanges c.toNat

def isWord (text : List Char) : Bool :=
  !text.isEmpty && text.all isWordChar

/-- Whether a word boundary lies behind a character: nothing, or no word character. -/
def isBoundary : Option Char → Bool
  | none => true
  | some c => !isWordChar c

/-- The longest word in front of a text and the rest behind it; nothing if no word is there. -/
def takeWord? (text : List Char) : Option (List Char × List Char) :=
  match text.span isWordChar with
  | ([], _) => none
  | (word, rest) => some (word, rest)

/-- What follows a fixed text at the front of another one. -/
def afterPrefix? : List Char → List Char → Option (List Char)
  | [], text => some text
  | _ :: _, [] => none
  | p :: ps, c :: rest => if p == c then afterPrefix? ps rest else none

/-- What follows a fixed lower-case text at the front of another one, ASCII letters compared
without case. -/
def afterPrefixIgnoringCase? : List Char → List Char → Option (List Char)
  | [], text => some text
  | _ :: _, [] => none
  | p :: ps, c :: rest => if p == c.toLower then afterPrefixIgnoringCase? ps rest else none

end SchemaDiagram.Text
