import SchemaDiagram.Text.Digits

/-!
# Shortest decimals

A finite double is a dyadic number `m * 2^q`.  Among the decimals that read back to it, meaning
those that lie between the midpoints to its two neighbours, the ones with the fewest digits are
found, and of these the nearest one.  All comparisons are made on natural numbers.
-/

namespace SchemaDiagram.Decimal

open SchemaDiagram.Text

/-- A natural number of steps of size 2^q, and whether the next double below is only half a step
away. -/
structure Dyadic where
  mantissa : Nat
  exponent : Int
  narrowBelow : Bool

/-- The magnitude of the finite double with the given 64 bits. -/
def Dyadic.ofBits (bits : Nat) : Dyadic :=
  let exponent : Nat := bits / Nat.pow 2 52 % Nat.pow 2 11
  let fraction : Nat := bits % Nat.pow 2 52
  if exponent = 0 then ⟨fraction, -1074, false⟩
  else ⟨Nat.pow 2 52 + fraction, (exponent : Int) - 1075, fraction = 0 && 1 < exponent⟩

/-- A decimal `digits * 10^exponent`. -/
structure Digits where
  digits : Nat
  exponent : Int
  deriving DecidableEq, Repr

/-- The positive ratio `numerator / denominator` of a quarter step of `x` to a unit of
`10^exponent`. -/
def quarterStep (x : Dyadic) (exponent : Int) : Nat × Nat :=
  let shift := x.exponent - 2
  (Nat.pow 2 shift.toNat * Nat.pow 10 (-exponent).toNat,
    Nat.pow 2 (-shift).toNat * Nat.pow 10 exponent.toNat)

/-- The largest `e` with `10^e` at most `x`, for a positive `x`. -/
def magnitude (x : Dyadic) : Int :=
  let (numerator, denominator) := quarterStep x 0
  let value := 4 * x.mantissa * numerator
  if denominator ≤ value then (decimalLength (value / denominator) : Int) - 1
  else -(decimalLength ((denominator - 1) / value) : Int)

/-- Whether `digits * 10^exponent` reads back to `x`.  A midpoint reads back to the neighbour with
an even mantissa. -/
def readsBack (x : Dyadic) (candidate : Digits) : Bool :=
  let (numerator, denominator) := quarterStep x candidate.exponent
  let value := candidate.digits * denominator
  let low := (4 * x.mantissa - (if x.narrowBelow then 1 else 2)) * numerator
  let high := (4 * x.mantissa + 2) * numerator
  if x.mantissa % 2 = 0 then low ≤ value && value ≤ high else low < value && value < high

/-- The decimal with `count` digits that reads back to `x` and lies nearest to it, if there is one.
Only the two neighbours of `x` on the grid of that many digits can be meant. -/
def nearestWith (count : Nat) (x : Dyadic) : Option Digits :=
  let exponent := magnitude x - ((count : Int) - 1)
  let (numerator, denominator) := quarterStep x exponent
  let value := 4 * x.mantissa * numerator
  let below : Digits := ⟨value / denominator, exponent⟩
  let above : Digits := ⟨value / denominator + 1, exponent⟩
  let twiceRest := 2 * (value % denominator)
  match readsBack x below, readsBack x above with
  | true, true =>
    if twiceRest < denominator then some below
    else if denominator < twiceRest then some above
    else if below.digits % 2 = 0 then some below
    else some above
  | true, false => some below
  | false, true => some above
  | false, false => none

/-- The same number with the zeros at the end of its digits moved into the exponent. -/
def Digits.normalize (x : Digits) : Digits :=
  if h : x.digits ≠ 0 ∧ x.digits % 10 = 0 then
    Digits.normalize ⟨x.digits / 10, x.exponent + 1⟩
  else x
termination_by x.digits
decreasing_by
  exact Nat.div_lt_self (Nat.pos_of_ne_zero h.1) (by omega)

/-- The shortest decimal that reads back to a positive `x`; 17 digits always suffice. -/
def shortest (x : Dyadic) : Digits :=
  (((List.range 17).findSome? fun count => nearestWith (count + 1) x).getD ⟨0, 0⟩).normalize

end SchemaDiagram.Decimal
