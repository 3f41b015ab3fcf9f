/-!
# Digits

Decimal and hexadecimal digits: the value of a digit, the digits of a number, and the number that a
run of digits stands for.
-/

namespace SchemaDiagram.Text

/-- The digit character of a value below sixteen, letters in lower case. -/
def digitChar (value : Nat) : Char :=
  if value < 10 then Char.ofNat ('0'.toNat + value) else Char.ofNat ('a'.toNat + (value - 10))

def decimalValue? (c : Char) : Option Nat :=
  if '0' ≤ c ∧ c ≤ '9' then some (c.toNat - '0'.toNat) else none

def hexValue? (c : Char) : Option Nat :=
  if '0' ≤ c ∧ c ≤ '9' then some (c.toNat - '0'.toNat)
  else if 'a' ≤ c ∧ c ≤ 'f' then some (c.toNat - 'a'.toNat + 10)
  else if 'A' ≤ c ∧ c ≤ 'F' then some (c.toNat - 'A'.toNat + 10)
  else none

def isDecimal (c : Char) : Bool :=
  (decimalValue? c).isSome

/-- The lowest `width` digits of a number in a base, the highest of them first. -/
def fixedDigits (base : Nat) : (width value : Nat) → List Char
  | 0, _ => []
  | width + 1, value =>
    fixedDigits base width (value / base) ++ [digitChar (value % base)]

/-- The number of decimal digits that a number is written with. -/
def decimalLength (value : Nat) : Nat :=
  if value < 10 then 1 else decimalLength (value / 10) + 1

/-- The decimal digits of a number, without leading zeros. -/
def decimalDigits (value : Nat) : List Char :=
  fixedDigits 10 (decimalLength value) value

/-- The number that a list of digit values stands for in a base. -/
def valueOfDigits (base : Nat) (digits : List Nat) : Nat :=
  digits.foldl (fun value digit => value * base + digit) 0

/-- The number that a text of decimal digits stands for; nothing if the text is empty or holds
anything else. -/
def decimalNumber? (text : List Char) : Option Nat :=
  if text.isEmpty then none else (text.mapM decimalValue?).map (valueOfDigits 10)

/-- The number that a text of hexadecimal digits stands for; nothing if the text is empty or holds
anything else. -/
def hexNumber? (text : List Char) : Option Nat :=
  if text.isEmpty then none else (text.mapM hexValue?).map (valueOfDigits 16)

end SchemaDiagram.Text
