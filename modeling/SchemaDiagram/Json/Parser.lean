import SchemaDiagram.Json.Basic

/-!
# Reading JSON text

A strict reader: no byte order mark, no trailing text, no relaxed literals.  Every call that the
reader makes to itself takes one unit off its fuel, and twice the length of the text is enough,
because at most two calls share a character.
-/

namespace SchemaDiagram.Json

open SchemaDiagram.Text

/-- Drop the white space that JSON allows between tokens. -/
def skipSpace (text : List Char) : List Char :=
  text.dropWhile fun c => c == ' ' || c == '\t' || c == '\n' || c == '\r'

/-- A part of a string: a character, or the code unit of an escape. -/
inductive StringPart where
  | char (c : Char)
  | unit (value : Nat)

/-- The character of an escape with a single letter. -/
def escapedChar? (c : Char) : Option Char :=
  if c = '\x22' ∨ c = '\\' ∨ c = '/' then some c
  else if c = 'b' then some '\x08'
  else if c = 'f' then some '\x0c'
  else if c = 'n' then some '\n'
  else if c = 'r' then some '\r'
  else if c = 't' then some '\t'
  else none

/-- The parts of a string behind its opening quote, and what follows the closing one. -/
def takeString? : List Char → Option (List StringPart × List Char)
  | [] => none
  | '\x22' :: rest => some ([], rest)
  | '\\' :: 'u' :: a :: b :: c :: d :: rest => do
    let value ← hexNumber? [a, b, c, d]
    let (parts, rest) ← takeString? rest
    return (.unit value :: parts, rest)
  | '\\' :: c :: rest => do
    let escaped ← escapedChar? c
    let (parts, rest) ← takeString? rest
    return (.char escaped :: parts, rest)
  | c :: rest =>
    if c.toNat < 0x20 ∨ c = '\\' then none
    else do
      let (parts, rest) ← takeString? rest
      return (.char c :: parts, rest)

/-- Whether a code unit opens a surrogate pair. -/
def isHighSurrogate (value : Nat) : Bool :=
  0xD800 ≤ value && value < 0xDC00

/-- Whether a code unit closes a surrogate pair. -/
def isLowSurrogate (value : Nat) : Bool :=
  0xDC00 ≤ value && value < 0xE000

/-- The text that the parts of a string stand for; nothing if a surrogate is unpaired. -/
def joinParts? : List StringPart → Option (List Char)
  | [] => some []
  | .char c :: rest => (joinParts? rest).map (c :: ·)
  | .unit high :: .unit low :: rest =>
    if isHighSurrogate high then
      if isLowSurrogate low then
        (joinParts? rest).map
          (Char.ofNat (0x10000 + (high - 0xD800) * 0x400 + (low - 0xDC00)) :: ·)
      else none
    else if isLowSurrogate high then none
    else (joinParts? (.unit low :: rest)).map (Char.ofNat high :: ·)
  | .unit value :: rest =>
    if isHighSurrogate value || isLowSurrogate value then none
    else (joinParts? rest).map (Char.ofNat value :: ·)

def ofParts (parts : List StringPart) : Json :=
  match joinParts? parts with
  | some text => .string (String.ofList text)
  | none => .illFormed

/-- Put a member in front of others; nothing if a name among them is no text. -/
def consMember? (name : List StringPart) (value : Json) (members : Option (List (String × Json))) :
    Option (List (String × Json)) := do
  return (String.ofList (← joinParts? name), value) :: (← members)

def ofMembers (members : Option (List (String × Json))) : Json :=
  match members with
  | some members => .object members
  | none => .illFormed

def takeNumber? (text : List Char) : Option (Json × List Char) := do
  let (_, rest) ← Decimal.takeLiteral? text
  return (.number (text.take (text.length - rest.length)), rest)

mutual

def takeValue? : Nat → List Char → Option (Json × List Char)
  | 0, _ => none
  | fuel + 1, text =>
    match skipSpace text with
    | 'n' :: 'u' :: 'l' :: 'l' :: rest => some (.null, rest)
    | 't' :: 'r' :: 'u' :: 'e' :: rest => some (.bool true, rest)
    | 'f' :: 'a' :: 'l' :: 's' :: 'e' :: rest => some (.bool false, rest)
    | '\x22' :: rest => (takeString? rest).map fun (parts, rest) => (ofParts parts, rest)
    | '[' :: rest =>
      match skipSpace rest with
      | ']' :: rest => some (.array [], rest)
      | rest => (takeItems? fuel rest).map fun (items, rest) => (.array items, rest)
    | '\x7b' :: rest =>
      match skipSpace rest with
      | '\x7d' :: rest => some (.object [], rest)
      | rest => (takeMembers? fuel rest).map fun (members, rest) => (ofMembers members, rest)
    | rest => takeNumber? rest

/-- The items of a non-empty array, up to and with the closing bracket. -/
def takeItems? : Nat → List Char → Option (List Json × List Char)
  | 0, _ => none
  | fuel + 1, text => do
    let (item, rest) ← takeValue? fuel text
    match skipSpace rest with
    | ',' :: rest =>
      let (items, rest) ← takeItems? fuel rest
      return (item :: items, rest)
    | ']' :: rest => return ([item], rest)
    | _ => none

/-- The members of a non-empty object, up to and with the closing brace; nothing for the members if
a name among them is no text. -/
def takeMembers? : Nat → List Char → Option (Option (List (String × Json)) × List Char)
  | 0, _ => none
  | fuel + 1, text =>
    match skipSpace text with
    | '\x22' :: rest => do
      let (name, rest) ← takeString? rest
      match skipSpace rest with
      | ':' :: rest =>
        let (value, rest) ← takeValue? fuel rest
        match skipSpace rest with
        | ',' :: rest =>
          let (members, rest) ← takeMembers? fuel rest
          return (consMember? name value members, rest)
        | '\x7d' :: rest => return (consMember? name value (some []), rest)
        | _ => none
      | _ => none
    | _ => none

end

/-- The value that a whole text stands for. -/
def ofText? (text : List Char) : Option Json :=
  match takeValue? (2 * text.length + 2) text with
  | some (json, rest) => if (skipSpace rest).isEmpty then some json else none
  | none => none

end SchemaDiagram.Json
