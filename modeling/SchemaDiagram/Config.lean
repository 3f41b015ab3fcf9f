import SchemaDiagram.Dialect
import SchemaDiagram.EventBus
import SchemaDiagram.Text.Digits

/-!
# Configuration

Settings are looked up by name, usually among environment variables.  A value that cannot be read
counts as missing, and every setting has a default.
-/

namespace SchemaDiagram

/-- The settings of a session and its editor. -/
structure Config where
  /-- The dialect of new diagrams. -/
  dialect : Dialect
  /-- How many milliseconds without text edits must pass before the text follows the model. -/
  quietWindow : Nat
  eventCapacity : Nat
  deriving DecidableEq, Repr

namespace Config

def standard : Config where
  dialect := .generic
  quietWindow := 1000
  eventCapacity := EventBus.standardCapacity

/-- A number below 2^64 in decimal digits, with an optional plus sign. -/
def readNumber? (text : List Char) : Option Nat := do
  let digits :=
    match text with
    | '+' :: rest => rest
    | all => all
  let value ← Text.decimalNumber? digits
  guard (value < UInt64.size)
  return value

/-- The number that a setting holds, blanks around it ignored. -/
def numberSetting? (lookup : String → Option String) (name : String) : Option Nat :=
  (lookup name).bind fun raw => readNumber? (Text.trim raw.toList)

def settingNames : List String :=
  ["SCHEMAX_DATABASE_TYPE", "SCHEMAX_QUIET_WINDOW_MS", "SCHEMAX_EVENT_CAPACITY"]

def ofLookup (lookup : String → Option String) : Config where
  dialect := ((lookup "SCHEMAX_DATABASE_TYPE").bind Dialect.ofName?).getD standard.dialect
  quietWindow := (numberSetting? lookup "SCHEMAX_QUIET_WINDOW_MS").getD standard.quietWindow
  eventCapacity :=
    max ((numberSetting? lookup "SCHEMAX_EVENT_CAPACITY").getD standard.eventCapacity) 1

end Config

end SchemaDiagram
