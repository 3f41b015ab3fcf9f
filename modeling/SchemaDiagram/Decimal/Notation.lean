import SchemaDiagram.Decimal.Shortest

/-!
# Decimal notation of doubles

How a double is written and read.  Writing takes the shortest decimal; a number from `0.00001` up to
below `10^16` is written positionally with a point, every other one with an exponent that carries
its sign.  Reading takes the digits that fit 64 bits as a double and scales them by a power of ten.
-/

namespace SchemaDiagram.Decimal

open SchemaDiagram.Text

/-- Digits with a point behind the first `whole` of them; a zero stands for an empty part. -/
def pointAfter (whole : Nat) (digits : List Char) : List Char :=
  let fraction := digits.drop whole
  digits.take whole ++ List.replicate (whole - digits.length) '0' ++ '.' ::
    (if fraction.isEmpty then ['0'] else fraction)

/-- The scientific exponents that are written positionally. -/
def isPositional (exponent : Int) : Bool :=
  -5 ≤ exponent && exponent ≤ 15

def Digits.write (x : Digits) : List Char :=
  let digits := decimalDigits x.digits
  let exponent := x.exponent + digits.length - 1
  if isPositional exponent then
    if 0 ≤ exponent then pointAfter (exponent.toNat + 1) digits
    else '0' :: '.' :: (List.replicate ((-exponent).toNat - 1) '0' ++ digits)
  else
    let mantissa :=
      match digits with
      | first :: second :: rest => first :: '.' :: second :: rest
      | short => short
    mantissa ++ 'e' :: (if exponent < 0 then '-' else '+') :: decimalDigits exponent.natAbs

/-- The text of a finite double; nothing for an infinity and for no number. -/
def write? (x : Float) : Option (List Char) :=
  let bits := x.toBits.toNat
  if bits / Nat.pow 2 52 % Nat.pow 2 11 = 2047 then none
  else
    let magnitude := Dyadic.ofBits bits
    let text := if magnitude.mantissa = 0 then ['0', '.', '0'] else (shortest magnitude).write
    some (if bits / Nat.pow 2 63 = 1 then '-' :: text else text)

/-! ## Reading -/

/-- The parts of a number literal: its sign, the digits on both sides of the point, the exponent,
and whether the literal has neither point nor exponent. -/
structure Literal where
  negative : Bool
  whole : List Char
  fraction : List Char
  exponent : Int
  isInteger : Bool

/-- The digits in front of a text and what follows them. -/
def spanDigits (text : List Char) : List Char × List Char :=
  text.span isDecimal

/-- The fraction of a literal: a point and at least one digit, or nothing. -/
def takeFraction? (text : List Char) : Option (List Char × List Char) :=
  match text with
  | '.' :: rest =>
    match spanDigits rest with
    | ([], _) => none
    | (digits, rest) => some (digits, rest)
  | _ => some ([], text)

/-- The exponent of a literal: a letter, an optional sign and at least one digit, or nothing. -/
def takeExponent? (text : List Char) : Option (Option Int × List Char) :=
  match text with
  | c :: rest =>
    if c = 'e' ∨ c = 'E' then
      let (negative, digits) :=
        match rest with
        | '-' :: digits => (true, digits)
        | '+' :: digits => (false, digits)
        | digits => (false, digits)
      let (digits, rest) := spanDigits digits
      (decimalNumber? digits).map fun value =>
        (some (if negative then -(value : Int) else value), rest)
    else some (none, text)
  | [] => some (none, [])

/-- A number literal in front of a text and what follows it.  A zero in front of further digits is
no literal. -/
def takeLiteral? (text : List Char) : Option (Literal × List Char) := do
  let (negative, text) :=
    match text with
    | '-' :: rest => (true, rest)
    | _ => (false, text)
  let (whole, text) := spanDigits text
  guard (!whole.isEmpty && (whole.length == 1 || whole.head? != some '0'))
  let (fraction, text) ← takeFraction? text
  let (exponent, text) ← takeExponent? text
  return (⟨negative, whole, fraction, exponent.getD 0, fraction.isEmpty && exponent.isNone⟩, text)

/-- The integer that a literal without point and exponent stands for; `-0` is no integer. -/
def Literal.toInt? (literal : Literal) : Option Int := do
  guard literal.isInteger
  let value ← decimalNumber? literal.whole
  if literal.negative then
    if value = 0 then none else some (-(value : Int))
  else some value

/-- Append digits to a number as long as it stays below 2^64; the result counts the digits taken. -/
def significand : (value taken : Nat) → List Char → Nat × Nat
  | value, taken, [] => (value, taken)
  | value, taken, c :: rest =>
    let next := value * 10 + (decimalValue? c).getD 0
    if next < UInt64.size then significand next (taken + 1) rest else (value, taken)

/-- Divide a double by `10^count` in steps of at most `10^308`. -/
def divideByPower (x : Float) (count : Nat) : Float :=
  if h : count ≤ 308 then x / Float.ofScientific 1 false count
  else if x == 0 then x
  else divideByPower (x / Float.ofScientific 1 false 308) (count - 308)
termination_by count

/-- A double times a power of ten; nothing if it leaves the range of doubles. -/
def scale? (x : Float) (exponent : Int) : Option Float :=
  if exponent < 0 then some (divideByPower x exponent.natAbs)
  else if x == 0 then some x
  else if 308 < exponent then none
  else
    let product := x * Float.ofScientific 1 false exponent.toNat
    if product.isFinite then some product else none

/-- The double that a literal is read as; nothing if it is out of range.  The digits on either side
of the point are taken as long as they fit. -/
def Literal.toFloat? (literal : Literal) : Option Float :=
  let (whole, taken) := significand 0 0 literal.whole
  let (value, places) := significand whole 0 literal.fraction
  let exponent := literal.exponent + (literal.whole.length : Int) - taken - places
  (scale? (Float.ofNat value) exponent).map fun magnitude =>
    if literal.negative then -magnitude else magnitude

end SchemaDiagram.Decimal
