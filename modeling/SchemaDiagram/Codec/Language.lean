import SchemaDiagram.Json.Basic
import SchemaDiagram.SchemaText.Language

/-!
# The JSON form of a language

The record that a text editor is configured with.
-/

namespace SchemaDiagram.SchemaText

def TokenRule.toJson (rule : TokenRule) : Json :=
  .object [("pattern", .string rule.pattern), ("token", .string rule.token)]

def BracketPair.toJson (pair : BracketPair) : Json :=
  .object [("open", .string pair.opening), ("close", .string pair.closing)]

def Language.toJson (language : Language) : Json :=
  .object [
    ("id", .string language.id),
    ("keywords", Json.ofList Json.string language.keywords),
    ("lineComment", .string language.lineComment),
    ("brackets", Json.ofList BracketPair.toJson language.brackets),
    ("rules", Json.ofList TokenRule.toJson language.rules)]

end SchemaDiagram.SchemaText
