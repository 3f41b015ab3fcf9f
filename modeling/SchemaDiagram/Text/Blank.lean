/-!
# Blank characters

The characters that Unicode calls white space, and trimming them from the ends of a text.  Trimming
removes blanks only, and a trimmed text neither starts nor ends with one.
-/

namespace SchemaDiagram.Text

/-- Whether a code point lies in one of the given closed ranges. -/
def inRanges (ranges : List (Nat × Nat)) (point : Nat) : Bool :=
  ranges.any fun range => Nat.ble range.1 point && Nat.ble point range.2

/-- The closed ranges of the Unicode property `White_Space`. -/
def blankRanges : List (Nat × Nat) := [
  (0x0009, 0x000D), (0x0020, 0x0020), (0x0085, 0x0085), (0x00A0, 0x00A0), (0x1680, 0x1680),
  (0x2000, 0x200A), (0x2028, 0x2029), (0x202F, 0x202F), (0x205F, 0x205F), (0x3000, 0x3000)]

/-- Whether a character is white space in the sense of Unicode. -/
def isBlank (c : Char) : Bool :=
  inRanges blankRanges c.toNat

/-- Whether a character is a space or a tab, the two blanks that may stand inside a line. -/
def isInlineBlank (c : Char) : Bool :=
  c == ' ' || c == '\t'

def trimStart (text : List Char) : List Char :=
  text.dropWhile isBlank

/-- Drop the elements satisfying `p` from the end of a list. -/
def dropEndWhile {α : Type} (p : α → Bool) (items : List α) : List α :=
  (items.reverse.dropWhile p).reverse

def trimEnd (text : List Char) : List Char :=
  dropEndWhile isBlank text

def trim (text : List Char) : List Char :=
  trimEnd (trimStart text)

/-- A string without the blanks on both sides of it. -/
def trimmed (text : String) : String :=
  String.ofList (trim text.toList)

/-- The parts of a list between the elements equal to `separator`; there is always at least one. -/
def splitAt {α : Type} [BEq α] (separator : α) : List α → List (List α)
  | [] => [[]]
  | c :: rest =>
    if c == separator then [] :: splitAt separator rest
    else
      match splitAt separator rest with
      | [] => [[c]]
      | part :: parts => (c :: part) :: parts

/-- The parts of a list joined with a separator between neighbours. -/
def joinWith {α : Type} (separator : List α) (parts : List (List α)) : List α :=
  List.intercalate separator parts

end SchemaDiagram.Text
