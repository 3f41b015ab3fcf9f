import SchemaDiagram.DataType

/-!
# The language of an editor

What a text editor has to know about schema text: keywords, the mark of a comment, bracket pairs and
rules that divide a text into tokens.  The keywords hold the type names of a dialect.
-/

namespace SchemaDiagram.SchemaText

/-- A regular expression and the class of the tokens it describes. -/
structure TokenRule where
  pattern : String
  token : String
  deriving DecidableEq, Repr

/-- An opening bracket and the closing one. -/
structure BracketPair where
  opening : String
  closing : String
  deriving DecidableEq, Repr

/-- What a text editor has to know. -/
structure Language where
  id : String
  keywords : List String
  lineComment : String
  brackets : List BracketPair
  rules : List TokenRule
  deriving DecidableEq, Repr

namespace Language

/-- The words that give a text its structure. -/
def structureKeywords : List String := ["Table", "Rel", "Indexes", "Note"]

def tagKeywords : List String :=
  ["primary key", "pk", "unique", "null", "not null", "note", "name"]

/-- Append the words that a list does not hold yet. -/
def addMissing (words more : List String) : List String :=
  more.foldl (fun words word => if words.contains word then words else words ++ [word]) words

/-- The keywords for a dialect: structure, tags, aliases of types, and the types themselves. -/
def keywordsFor (dialect : Dialect) : List String :=
  addMissing (structureKeywords ++ tagKeywords ++ DataType.aliases.map Prod.fst)
    (dialect.types.map DataType.name)

def forDialect (dialect : Dialect) : Language where
  id := "dbml"
  keywords := keywordsFor dialect
  lineComment := "//"
  brackets := [⟨"\x7b", "\x7d"⟩, ⟨"[", "]"⟩, ⟨"(", ")"⟩]
  rules := [
    ⟨"//.*", "comment"⟩,
    ⟨"\\d+(\\.\\d+)?", "number"⟩,
    ⟨"\"[^\"]*\"", "string"⟩,
    ⟨"'[^']*'", "string"⟩,
    ⟨"#[a-zA-Z]\\w*", "tag"⟩,
    ⟨"\\w+", "identifier"⟩]

def isKeyword (language : Language) (word : String) : Bool :=
  language.keywords.contains word

end Language

end SchemaDiagram.SchemaText
