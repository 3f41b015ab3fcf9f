import SchemaDiagram.Json.Basic

/-!
# JSON text

The two written forms of a JSON value: on one line, and indented by two spaces per level.
-/

namespace SchemaDiagram.Json

open SchemaDiagram.Text

def escapeChar (c : Char) : List Char :=
  if c = '\x22' then ['\\', '\x22']
  else if c = '\\' then ['\\', '\\']
  else if c = '\n' then ['\\', 'n']
  else if c = '\r' then ['\\', 'r']
  else if c = '\t' then ['\\', 't']
  else if c = '\x08' then ['\\', 'b']
  else if c = '\x0c' then ['\\', 'f']
  else if c.toNat < 0x20 then '\\' :: 'u' :: fixedDigits 16 4 c.toNat
  else [c]

/-- A string in quotes. -/
def writeString (value : String) : List Char :=
  '\x22' :: (value.toList.flatMap escapeChar ++ ['\x22'])

def writeBool (value : Bool) : List Char :=
  if value then ['t', 'r', 'u', 'e'] else ['f', 'a', 'l', 's', 'e']

mutual

/-- A value on one line. -/
def compact : Json → List Char
  | .null => ['n', 'u', 'l', 'l']
  | .bool value => writeBool value
  | .number literal => literal
  | .string value => writeString value
  | .illFormed => writeString ""
  | .array items => '[' :: (compactItems items ++ [']'])
  | .object members => '\x7b' :: (compactMembers members ++ ['\x7d'])

def compactItems : List Json → List Char
  | [] => []
  | [item] => compact item
  | item :: rest => compact item ++ ',' :: compactItems rest

def compactMembers : List (String × Json) → List Char
  | [] => []
  | [(name, value)] => writeString name ++ ':' :: compact value
  | (name, value) :: rest =>
    writeString name ++ ':' :: (compact value ++ ',' :: compactMembers rest)

end

/-- A line break and the indentation of a level. -/
def lineBreak (level : Nat) : List Char :=
  '\n' :: List.replicate (2 * level) ' '

mutual

/-- A value over several lines, at a level of indentation. -/
def prettyAt (level : Nat) : Json → List Char
  | .null => ['n', 'u', 'l', 'l']
  | .bool value => writeBool value
  | .number literal => literal
  | .string value => writeString value
  | .illFormed => writeString ""
  | .array [] => ['[', ']']
  | .array (item :: rest) =>
    '[' :: (prettyItems (level + 1) (item :: rest) ++ lineBreak level ++ [']'])
  | .object [] => ['\x7b', '\x7d']
  | .object (member :: rest) =>
    '\x7b' :: (prettyMembers (level + 1) (member :: rest) ++ lineBreak level ++ ['\x7d'])

/-- The items of an array, each on a line of its own. -/
def prettyItems (level : Nat) : List Json → List Char
  | [] => []
  | [item] => lineBreak level ++ prettyAt level item
  | item :: rest => lineBreak level ++ prettyAt level item ++ ',' :: prettyItems level rest

/-- The members of an object, each on a line of its own. -/
def prettyMembers (level : Nat) : List (String × Json) → List Char
  | [] => []
  | [(name, value)] => lineBreak level ++ writeString name ++ ':' :: ' ' :: prettyAt level value
  | (name, value) :: rest =>
    lineBreak level ++ writeString name ++ ':' :: ' ' ::
      (prettyAt level value ++ ',' :: prettyMembers level rest)

end

/-- A value over several lines. -/
def pretty (json : Json) : List Char :=
  prettyAt 0 json

end SchemaDiagram.Json
