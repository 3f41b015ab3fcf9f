import SchemaDiagram.Decimal.Notation

/-!
# JSON values

A JSON document as a value.  A number keeps its literal, so that nothing is lost before it is known
what kind of number is asked for; the members of an object keep their order and may repeat a name.
-/

namespace SchemaDiagram

/-- A JSON value. -/
inductive Json where
  | null
  | bool (value : Bool)
  | number (literal : List Char)
  | string (value : String)
  /-- A string with an unpaired surrogate escape, or an object with a member of such a name:
  correctly written and therefore passed over where nothing asks for it, yet no value. -/
  | illFormed
  | array (items : List Json)
  | object (members : List (String × Json))

namespace Json

open SchemaDiagram.Text

def ofInt (value : Int) : Json :=
  .number (if value < 0 then '-' :: decimalDigits value.natAbs else decimalDigits value.natAbs)

/-- A double as a JSON value; `null` stands for what JSON cannot express. -/
def ofFloat (value : Float) : Json :=
  match Decimal.write? value with
  | some literal => .number literal
  | none => .null

def ofList {α : Type} (encode : α → Json) (items : List α) : Json :=
  .array (items.map encode)

def ofOption {α : Type} (encode : α → Json) : Option α → Json
  | none => .null
  | some value => encode value

/-! ## Reading leaves -/

def string? : Json → Option String
  | .string value => some value
  | _ => none

def bool? : Json → Option Bool
  | .bool value => some value
  | _ => none

/-- An integer in a closed range. -/
def int? (low high : Int) : Json → Option Int
  | .number literal => do
    let (literal, _) ← Decimal.takeLiteral? literal
    let value ← literal.toInt?
    guard (low ≤ value ∧ value ≤ high)
    return value
  | _ => none

/-- A natural number below 2^64. -/
def nat? (json : Json) : Option Nat :=
  (json.int? 0 (UInt64.size - 1)).map Int.toNat

/-- A number as a double. -/
def float? : Json → Option Float
  | .number literal => do
    let (literal, _) ← Decimal.takeLiteral? literal
    literal.toFloat?
  | _ => none

/-- An array, each item decoded. -/
def list? {α : Type} (decode : Json → Option α) : Json → Option (List α)
  | .array items => items.mapM decode
  | _ => none

/-- `null`, or a decoded value. -/
def option? {α : Type} (decode : Json → Option α) : Json → Option (Option α)
  | .null => some none
  | json => (decode json).map some

/-- A pair, written as an array of two. -/
def pair? {α β : Type} (first : Json → Option α) (second : Json → Option β) :
    Json → Option (α × β)
  | .array [a, b] => do return (← first a, ← second b)
  | _ => none

/-! ## Reading records -/

/-- The named members of a record.  A record is an object in which no known name repeats, or an
array of its members in order, from whose end up to `optional` members may be missing. -/
def members? (names : List String) (optional : Nat) : Json → Option (List (String × Json))
  | .object members =>
    if names.all fun name => (members.filter fun member => member.1 == name).length ≤ 1 then
      some members
    else none
  | .array items =>
    if items.length ≤ names.length ∧ names.length ≤ items.length + optional then
      some (names.zip items)
    else none
  | _ => none

def required? {α : Type} (name : String) (decode : Json → Option α)
    (members : List (String × Json)) : Option α :=
  (members.lookup name).bind decode

/-- The value of a member that may be missing or `null`. -/
def optional? {α : Type} (name : String) (decode : Json → Option α)
    (members : List (String × Json)) : Option (Option α) :=
  match members.lookup name with
  | none => some none
  | some json => option? decode json

/-- The value of a member with a default for a missing one. -/
def defaulted? {α : Type} (name : String) (default : α) (decode : Json → Option α)
    (members : List (String × Json)) : Option α :=
  match members.lookup name with
  | none => some default
  | some json => decode json

/-- The value of a member where a missing one and `null` mean different things: with the first
nothing is said, the second clears. -/
def clearable? {α : Type} (name : String) (decode : Json → Option α)
    (members : List (String × Json)) : Option (Option (Option α)) :=
  match members.lookup name with
  | none => some none
  | some json => (option? decode json).map some

/-- The value of a member with a default for a missing one and for `null`. -/
def optionalOr? {α : Type} (name : String) (default : α) (decode : Json → Option α)
    (members : List (String × Json)) : Option α :=
  (optional? name decode members).map fun value => value.getD default

def object? : Json → Option (List (String × Json))
  | .object members => some members
  | _ => none

def array? : Json → Option (List Json)
  | .array items => some items
  | _ => none

/-- The name of an enumeration's case: a string, or an object that maps the name to `null`. -/
def caseName? : Json → Option String
  | .string name => some name
  | .object [(name, .null)] => some name
  | _ => none

end Json

end SchemaDiagram
