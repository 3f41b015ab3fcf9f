import SchemaDiagram.SchemaText.Quote
import SchemaDiagram.SchemaText.Occurrence

/-!
# Statements

The constructs within and between table blocks, each with a recogniser of its own: the line of a
field, the note of a table, the line of an index, a tag with a quoted value, and the statement of a
relationship.  A text that fits none of them is passed over.
-/

namespace SchemaDiagram.SchemaText

open SchemaDiagram.Text

/-- Drop the spaces and tabs in front of a text. -/
def skipInline (text : List Char) : List Char :=
  text.dropWhile isInlineBlank

/-- Drop at least one space or tab in front of a text. -/
def skipInlineSome? (text : List Char) : Option (List Char) :=
  if text.head?.any isInlineBlank then some (skipInline text) else none

/-- What follows a fixed character. -/
def afterChar? (mark : Char) : List Char → Option (List Char)
  | [] => none
  | c :: rest => if c = mark then some rest else none

/-- The tags at the end of a line: the text between a bracket and the last bracket of the line,
behind which only blanks and a carriage return may stand.  A line that ends here has none. -/
def tagsAtEnd? (line : List Char) : Option (List Char) :=
  match skipInline line with
  | [] => some []
  | ['\r'] => some []
  | '[' :: rest =>
    let reversed :=
      match rest.reverse with
      | '\r' :: more => more
      | all => all
    match skipInline reversed with
    | ']' :: tags => some tags.reverse
    | _ => none
  | _ => none

/-! ## Fields and notes -/

/-- A name, a type and the tags behind it, as written. -/
structure FieldStatement where
  name : List Char
  type : List Char
  tags : List Char
  deriving DecidableEq, Repr

/-- Whether a character may stand in the name of a type. -/
def isTypeChar (c : Char) : Bool :=
  c != '[' && c != '\r'

/-- The field that a line declares: a word, blanks, and a type that starts with a word character
and runs up to the tags or the end of the line. -/
def fieldOfLine? (line : List Char) : Option FieldStatement := do
  let (name, rest) ← takeWord? (skipInline line)
  let rest ← skipInlineSome? rest
  guard (rest.head?.any isWordChar)
  let tags ← tagsAtEnd? (rest.dropWhile isTypeChar)
  return ⟨name, trim (rest.takeWhile isTypeChar), tags⟩

def noteKeyword : List Char := ['n', 'o', 't', 'e']

def nameKeyword : List Char := ['n', 'a', 'm', 'e']

/-- A keyword in any case, a colon and a quoted string, as the characters between the quotes. -/
def takeTag? (keyword : List Char) (text : List Char) : Option (List Char × List Char) := do
  let rest ← afterPrefixIgnoringCase? keyword text
  let rest ← afterChar? ':' (skipInline rest)
  takeQuoted? (skipInline rest)

/-- The note that a line of a table's body starts with. -/
def noteOfLine? (line : List Char) : Option (List Char) :=
  (takeTag? noteKeyword (skipInline line)).map Prod.fst

/-- A tag among other tags. -/
def tagRecogniser (keyword : List Char) : Recogniser (List Char) := fun previous text =>
  if isBoundary previous then takeTag? keyword text else none

/-- The value of the first tag with a keyword, and the tags without any of these. -/
def extractTag (keyword tags : List Char) : Option (List Char) × List Char :=
  let occurrences := Occurrences.ofText (tagRecogniser keyword) tags
  (occurrences.items.head?.map unescape, occurrences.pieces.flatten)

/-! ## Indexes -/

/-- A list of field names and the tags behind it, as written. -/
structure IndexStatement where
  fields : List Char
  tags : List Char
  deriving DecidableEq, Repr

/-- Whether a line starts behind the given character. -/
def isLineStart : Option Char → Bool
  | none => true
  | some c => c == '\n'

/-- An index at the start of a line: field names in parentheses, which may stand on several lines,
and the tags up to the end of the last one. -/
def takeIndex? : Recogniser IndexStatement := fun previous text => do
  guard (isLineStart previous)
  let rest ← afterChar? '(' (skipInline text)
  let fields := rest.takeWhile (· != ')')
  let rest ← afterChar? ')' (rest.dropWhile (· != ')'))
  let tags ← tagsAtEnd? (rest.takeWhile (· != '\n'))
  return (⟨fields, tags⟩, rest.dropWhile (· != '\n'))

/-! ## Relationships -/

/-- A cardinality, a table and a field, as written. -/
structure EndStatement where
  cardinality : List Char
  table : List Char
  field : List Char
  deriving DecidableEq, Repr

/-- A name and two ends, as written. -/
structure RelationshipStatement where
  name : List Char
  source : EndStatement
  target : EndStatement
  deriving DecidableEq, Repr

def relationshipKeyword : List Char := ['R', 'e', 'l']

/-- One end of a relationship: a mark, blanks, and two words with a point between them. -/
def takeEnd? (text : List Char) : Option (EndStatement × List Char) := do
  let isMarkChar := fun c => isWordChar c || c == '*'
  let cardinality := text.takeWhile isMarkChar
  guard (!cardinality.isEmpty)
  let rest ← skipInlineSome? (text.dropWhile isMarkChar)
  let (table, rest) ← takeWord? rest
  let rest ← afterChar? '.' rest
  let (field, rest) ← takeWord? rest
  return (⟨cardinality, table, field⟩, rest)

/-- A relationship on one line. -/
def takeRelationship? : Recogniser RelationshipStatement := fun previous text => do
  guard (isBoundary previous)
  let rest ← afterPrefix? relationshipKeyword text
  let rest ← skipInlineSome? rest
  let (name, rest) ← takeWord? rest
  let rest ← afterChar? ':' (skipInline rest)
  let (source, rest) ← takeEnd? (skipInline rest)
  let rest ← afterChar? ',' (skipInline rest)
  let (target, rest) ← takeEnd? (skipInline rest)
  return (⟨name, source, target⟩, rest)

end SchemaDiagram.SchemaText
