import SchemaDiagram.Text.Word

/-!
# Quoted strings

Notes and names are written in single quotes with backslash escapes, so that a quoted string never
holds a line break.  A scanner tells which characters of a text are quoted; it also knows double
quotes, and it gives up on a string at the end of the line.
-/

namespace SchemaDiagram.SchemaText

/-- Whether a character opens a quoted string. -/
def isQuote (c : Char) : Bool :=
  c == '\x27' || c == '\x22'

/-- The written form of one character between quotes. -/
def quoteChar (c : Char) : List Char :=
  if c = '\\' then ['\\', '\\']
  else if c = '\x27' then ['\\', '\x27']
  else if c = '\n' then ['\\', 'n']
  else if c = '\r' then ['\\', 'r']
  else if c = '\t' then ['\\', 't']
  else [c]

/-- A text in single quotes. -/
def quote (text : List Char) : List Char :=
  '\x27' :: (text.flatMap quoteChar ++ ['\x27'])

/-- The character that a backslash and a letter stand for. -/
def unescapeChar (c : Char) : Char :=
  if c = 'n' then '\n' else if c = 'r' then '\r' else if c = 't' then '\t' else c

/-- The text that the characters between two quotes stand for. -/
def unescape : List Char → List Char
  | [] => []
  | ['\\'] => ['\\']
  | '\\' :: c :: rest => unescapeChar c :: unescape rest
  | c :: rest => c :: unescape rest

/-- The characters up to an unescaped `mark`, and what follows it; escapes are kept as written. -/
def takeUntilQuote? (mark : Char) : List Char → Option (List Char × List Char)
  | [] => none
  | '\\' :: c :: rest =>
    (takeUntilQuote? mark rest).map fun (content, rest) => ('\\' :: c :: content, rest)
  | ['\\'] => none
  | c :: rest =>
    if c = mark then some ([], rest)
    else (takeUntilQuote? mark rest).map fun (content, rest) => (c :: content, rest)

/-- The characters between the quotes of a string in front of a text, and what follows it. -/
def takeQuoted? : List Char → Option (List Char × List Char)
  | [] => none
  | c :: rest => if isQuote c then takeUntilQuote? c rest else none

/-! ## The scanner -/

/-- Where a scanner stands: outside of strings, in one, or behind a backslash in one. -/
inductive QuoteState where
  | outside
  | inside (mark : Char)
  | escaped (mark : Char)
  deriving DecidableEq, Repr, Inhabited

namespace QuoteState

/-- Read one character.  The answer tells whether it belongs to a quoted string, the quotes
themselves included. -/
def step : QuoteState → Char → QuoteState × Bool
  | outside, c => if isQuote c then (inside c, true) else (outside, false)
  | escaped mark, _ => (inside mark, true)
  | inside mark, c =>
    if c = '\\' then (escaped mark, true)
    else if c = mark then (outside, true)
    else if c = '\n' then (outside, false)
    else (inside mark, true)

/-- Where the scanner stands after a text. -/
def run (state : QuoteState) (text : List Char) : QuoteState :=
  text.foldl (fun state c => (state.step c).1) state

/-- For each character of a text, whether it is quoted. -/
def marks : QuoteState → List Char → List Bool
  | _, [] => []
  | state, c :: rest => (state.step c).2 :: marks (state.step c).1 rest

/-- Whether the scanner stands within a string. -/
def isInside : QuoteState → Bool
  | outside => false
  | _ => true

end QuoteState

end SchemaDiagram.SchemaText
