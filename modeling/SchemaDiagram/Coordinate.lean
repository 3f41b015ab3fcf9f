/-!
# Coordinates

What positions on the canvas are measured in.  Every definition about positions works over any type
of coordinates, so that the same layout runs on doubles and can be reasoned about on exact numbers.
-/

namespace SchemaDiagram

/-- The operations that placing tables needs. -/
class Coordinate (κ : Type) extends BEq κ where
  /-- A whole number as a coordinate. -/
  ofInt : Int → κ
  add : κ → κ → κ
  sub : κ → κ → κ
  mul : κ → κ → κ
  abs : κ → κ
  /-- Whether one coordinate is less than another one. -/
  lt : κ → κ → Bool
  isFinite : κ → Bool

instance : Coordinate Float where
  ofInt := Float.ofInt
  add := Float.add
  sub := Float.sub
  mul := Float.mul
  abs := Float.abs
  lt left right := left < right
  isFinite := Float.isFinite

namespace Coordinate

variable {κ : Type} [Coordinate κ]

def zero : κ := ofInt 0

/-- A coordinate some steps away from another one. -/
def advance (start : κ) (steps : Int) (size : κ) : κ :=
  add start (mul (ofInt steps) size)

def distance (left right : κ) : κ :=
  abs (sub left right)

/-- The greatest of some coordinates.  What is not equal to itself is no number and is skipped. -/
def greatest? (coordinates : List κ) : Option κ :=
  coordinates.foldl
    (fun greatest x =>
      match greatest with
      | none => if x == x then some x else none
      | some y => some (if lt y x then x else y))
    none

end Coordinate

end SchemaDiagram
