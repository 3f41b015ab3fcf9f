import SchemaDiagram.SchemaText.Quote

/-!
# Lines and comments

A text is a list of lines; a carriage return in front of a line feed belongs to the line break.  A
comment starts at two slashes outside quotes and ends with its line.
-/

namespace SchemaDiagram.SchemaText

open SchemaDiagram.Text

/-- A line without the carriage return at its end. -/
def dropReturn (line : List Char) : List Char :=
  if line.getLast? = some '\r' then line.dropLast else line

/-- The lines of the parts between line feeds: every part but the last one ends in a line break, and
an empty last part is no line. -/
def linesOfParts : List (List Char) → List (List Char)
  | [] => []
  | [last] => if last.isEmpty then [] else [last]
  | part :: rest => dropReturn part :: linesOfParts rest

def lines (text : List Char) : List (List Char) :=
  linesOfParts (splitAt '\n' text)

/-- The part of a line in front of its comment. -/
def cutComment (state : QuoteState) : List Char → List Char
  | [] => []
  | c :: rest =>
    if !(state.step c).2 && c == '/' && rest.head? == some '/' then []
    else c :: cutComment (state.step c).1 rest

/-- A text without its comments, all line breaks written as line feeds. -/
def stripComments (text : List Char) : List Char :=
  joinWith ['\n'] ((lines text).map (cutComment .outside))

end SchemaDiagram.SchemaText
