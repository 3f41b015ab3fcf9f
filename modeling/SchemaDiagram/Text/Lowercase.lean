import SchemaDiagram.Text.Blank
import SchemaDiagram.Text.CaseTables

/-!
# Lower case

The full Unicode lower-case mapping of a text.  It works character by character with one exception:
a capital sigma that ends a word becomes a final sigma.
-/

namespace SchemaDiagram.Text

/-- Whether a character has the Unicode property `Cased`. -/
def isCased (c : Char) : Bool :=
  if c.toNat < 0x80 then c.isAlpha else inRanges casedRanges c.toNat

/-- Whether a character has the Unicode property `Case_Ignorable`. -/
def isCaseIgnorable (c : Char) : Bool :=
  if c.toNat < 0x80 then c == '\x27' || c == '.' || c == ':' || c == '^' || c == '\x60'
  else inRanges caseIgnorableRanges c.toNat

/-- The code point that a run maps a code point to, if the run holds it. -/
def CaseRun.lower? (run : CaseRun) (point : Nat) : Option Nat :=
  if run.first ≤ point ∧ point ≤ run.last ∧ (point - run.first) % run.stride = 0 then
    some ((point : Int) + run.shift).toNat
  else none

/-- The lower-case form of one character on its own. -/
def lowerChar (c : Char) : List Char :=
  if c.toNat < 0x80 then [c.toLower]
  else if c.toNat = 0x130 then ['i', '\u0307']
  else [((lowerRuns.findSome? (·.lower? c.toNat)).map Char.ofNat).getD c]

/-- Whether a cased character comes next, case-ignorable characters skipped. -/
def startsCased (text : List Char) : Bool :=
  match text.dropWhile isCaseIgnorable with
  | [] => false
  | c :: _ => isCased c

/-- The lower-case form of the rest of a text; `afterCased` tells whether the last character in
front of it that is not case-ignorable is cased. -/
def lowercaseFrom (afterCased : Bool) : List Char → List Char
  | [] => []
  | c :: rest =>
    let lowered :=
      if c = 'Σ' then [if afterCased && !startsCased rest then 'ς' else 'σ'] else lowerChar c
    lowered ++ lowercaseFrom (if isCaseIgnorable c then afterCased else isCased c) rest

def lowercase (text : List Char) : List Char :=
  lowercaseFrom false text

def lowered (text : String) : String :=
  String.ofList (lowercase text.toList)

/-- Whether two texts are equal up to the case of ASCII letters. -/
def equalIgnoringCase (left right : List Char) : Bool :=
  left.map Char.toLower == right.map Char.toLower

end SchemaDiagram.Text
