import SchemaDiagram.Text.Alphanumeric
import SchemaDiagram.Text.Word

/-!
# Environment files

A text with one assignment per line, which supplies environment variables that are not set
otherwise.  A line may start with `export`; a value may be quoted, may reach over several lines
within quotes, and may refer to variables.  Reading stops at the first line that is malformed; what
stands before it counts.
-/

namespace SchemaDiagram.EnvironmentFile

open SchemaDiagram.Text

/-- A part of a value: a character, or a reference to a variable. -/
inductive Piece where
  | char (c : Char)
  | variable (name : List Char)
  deriving DecidableEq, Repr

/-- A variable with the pieces of its value. -/
structure Assignment where
  name : String
  value : List Piece
  deriving DecidableEq, Repr

/-! ## Lines -/

/-- Where a line stands with regard to quotes and escapes, as far as it decides where it ends. -/
inductive LineState where
  | complete
  | blank
  | escaped
  | single
  | singleEscaped
  | double
  | doubleEscaped
  deriving DecidableEq, Repr

namespace LineState

/-- What a character does outside of quotes, blanks apart. -/
def open? (c : Char) : LineState :=
  if c = '\\' then escaped
  else if c = '\x22' then double
  else if c = '\x27' then single
  else complete

/-- The state behind a character; nothing if a comment starts there. -/
def next? (state : LineState) (c : Char) : Option LineState :=
  match state with
  | complete => some (if isBlank c && c != '\n' && c != '\r' then blank else open? c)
  | blank => if c = '#' then none else some (open? c)
  | escaped => some complete
  | single =>
    some (if c = '\\' then singleEscaped else if c = '\x27' then complete else single)
  | singleEscaped => some single
  | double =>
    some (if c = '\\' then doubleEscaped else if c = '\x22' then complete else double)
  | doubleEscaped => some double

/-- The part of a text in front of a comment, and the state behind the text; no state if there is a
comment. -/
def scan (state : LineState) : List Char → List Char × Option LineState
  | [] => ([], some state)
  | c :: rest =>
    match state.next? c with
    | none => ([], none)
    | some next =>
      let (before, last) := scan next rest
      (c :: before, last)

end LineState

/-- The pieces of a text up to and with each line break; the last piece may lack one. -/
def rawLines : List Char → List (List Char)
  | [] => []
  | c :: rest =>
    if c = '\n' then ['\n'] :: rawLines rest
    else
      match rawLines rest with
      | [] => [[c]]
      | line :: lines => (c :: line) :: lines

def dropLineBreak (line : List Char) : List Char :=
  match line.reverse with
  | '\n' :: '\r' :: rest => rest.reverse
  | '\n' :: rest => rest.reverse
  | _ => line

/-- The lines that raw lines make up.  A line goes on while a quote or an escape is open; one that
never closes is dropped.  Comments are dropped as well. -/
def gather : (line : List Char) → LineState → List (List Char) → List (List Char)
  | _, _, [] => []
  | line, state, raw :: rest =>
    if (trimStart (line ++ raw)).head? = some '#' then gather [] .complete rest
    else
      match state.scan raw with
      | (before, none) => (line ++ before) :: gather [] .complete rest
      | (_, some .complete) => dropLineBreak (line ++ raw) :: gather [] .complete rest
      | (_, some state) => gather (line ++ raw) state rest

/-- The lines of a text, without a byte order mark in front of it. -/
def lines (text : List Char) : List (List Char) :=
  gather [] .complete (rawLines ((afterPrefix? ['\uFEFF'] text).getD text))

/-! ## Values -/

/-- Where a value stands with regard to quotes, escapes and references; `quoted` tells whether an
escape or a reference stands within double quotes. -/
inductive ValueState where
  | bare
  | single
  | double
  | escaped (quoted : Bool)
  /-- Within a name that is referred to without braces, which holds letters and digits only. -/
  | reference (quoted : Bool) (name : List Char)
  | braced (quoted : Bool) (name : List Char)
  /-- Behind the value, where only blanks and a comment may follow. -/
  | ended
  | comment
  deriving DecidableEq, Repr

namespace ValueState

/-- The state within double quotes, or outside of quotes. -/
def within (quoted : Bool) : ValueState :=
  if quoted then double else bare

def unescape? (c : Char) : Option Char :=
  if c = '\\' ∨ c = '\x27' ∨ c = '\x22' ∨ c = '$' ∨ c = ' ' then some c
  else if c = 'n' then some '\n'
  else none

/-- The state behind a character and the pieces it adds to the value; nothing if the value is
malformed. -/
def next? (state : ValueState) (c : Char) : Option (ValueState × List Piece) :=
  match state with
  | ended =>
    if isInlineBlank c then some (ended, []) else if c = '#' then some (comment, []) else none
  | comment => some (comment, [])
  | escaped quoted => (unescape? c).map fun c => (within quoted, [.char c])
  | single => some (if c = '\x27' then (bare, []) else (single, [.char c]))
  | reference quoted name =>
    some (
      if isAlphanumeric c then (reference quoted (name ++ [c]), [])
      else if c = '\x7b' ∧ name = [] then (braced quoted [], [])
      else if c = '$' then (reference quoted [], [.variable name])
      else (within quoted, [.variable name, .char c]))
  | braced quoted name =>
    some (if c = '\x7d' then (within quoted, [.variable name])
      else (braced quoted (name ++ [c]), []))
  | double =>
    some (
      if c = '$' then (reference true [], [])
      else if c = '\x22' then (bare, [])
      else if c = '\\' then (escaped true, [])
      else (double, [.char c]))
  | bare =>
    some (
      if c = '$' then (reference false [], [])
      else if c = '\x27' then (single, [])
      else if c = '\x22' then (double, [])
      else if c = '\\' then (escaped false, [])
      else if isInlineBlank c then (ended, [])
      else (bare, [.char c]))

/-- The pieces that the end of a value adds; nothing if a quote or a brace is still open. -/
def finish? (state : ValueState) : Option (List Piece) :=
  match state with
  | bare | ended | comment | escaped false => some []
  | reference false name => some [.variable name]
  | _ => none

def read? (state : ValueState) : List Char → Option (List Piece)
  | [] => state.finish?
  | c :: rest => do
    let (next, pieces) ← state.next? c
    return pieces ++ (← next.read? rest)

end ValueState

/-! ## Assignments -/

/-- The name of a variable in front of a text and what follows it. -/
def takeName? (text : List Char) : Option (List Char × List Char) :=
  match text with
  | c :: _ =>
    if c.isAlpha || c == '_' then some (text.span fun c => c.isAlphanum || c == '_' || c == '.')
    else none
  | [] => none

/-- What follows an equals sign, blanks in front of it skipped. -/
def afterEquals? (text : List Char) : Option (List Char) :=
  match trimStart text with
  | '=' :: rest => some rest
  | _ => none

/-- The name that a line assigns to, and what follows the equals sign.  The word `export` may stand
in front of the name. -/
def takeTarget? (text : List Char) : Option (List Char × List Char) := do
  let (name, rest) ← takeName? text
  match afterEquals? rest with
  | some value => return (name, value)
  | none =>
    guard (name = ['e', 'x', 'p', 'o', 'r', 't'])
    let (name, rest) ← takeName? (trimStart rest)
    return (name, ← afterEquals? rest)

inductive Line where
  | nothing
  | assignment (content : Assignment)
  | malformed
  deriving DecidableEq, Repr

/-- Whether a text is empty or starts with a comment. -/
def isIdle (text : List Char) : Bool :=
  text.isEmpty || text.head? == some '#'

def Line.ofText (text : List Char) : Line :=
  let text := trim text
  if isIdle text then .nothing
  else
    let content : Option Assignment := do
      let (name, rest) ← takeTarget? text
      let rest := trimStart rest
      let value ← if isIdle rest then some [] else ValueState.bare.read? rest
      return ⟨String.ofList name, value⟩
    match content with
    | some content => .assignment content
    | none => .malformed

/-- The assignments of lines up to the first malformed one. -/
def assignmentsOfLines : List (List Char) → List Assignment
  | [] => []
  | line :: rest =>
    match Line.ofText line with
    | .nothing => assignmentsOfLines rest
    | .assignment content => content :: assignmentsOfLines rest
    | .malformed => []

def assignments (text : String) : List Assignment :=
  assignmentsOfLines (lines text.toList)

/-! ## Variables -/

variable {m : Type → Type} [Monad m]

/-- The value of a variable: the one set otherwise, or else the first one assigned; empty if there
is none. -/
def valueOf (outer : String → m (Option String)) (assigned : List (String × String))
    (name : String) : m String := do
  return ((← outer name).or (assigned.lookup name)).getD ""

def pieceText (outer : String → m (Option String)) (assigned : List (String × String)) :
    Piece → m (List Char)
  | .char c => return [c]
  | .variable name => return (← valueOf outer assigned (String.ofList name)).toList

/-- The variables that assignments set, given the ones set otherwise.  Neither those nor variables
assigned before are set again. -/
def settle (outer : String → m (Option String)) :
    List (String × String) → List Assignment → m (List (String × String))
  | assigned, [] => return assigned
  | assigned, assignment :: rest => do
    let value ← assignment.value.mapM (pieceText outer assigned)
    settle outer (assigned ++ [(assignment.name, String.ofList value.flatten)]) rest

end SchemaDiagram.EnvironmentFile
