/-!
# Items with positions

Taking the items that satisfy a predicate out of a list together with their positions, and putting
items back at theirs.
-/

namespace SchemaDiagram

variable {α : Type}

/-- The items of a list with their positions, counted from `start`. -/
def positionedFrom (start : Nat) (items : List α) : List (Nat × α) :=
  items.zipIdx.map fun (item, position) => (start + position, item)

/-- The items that satisfy `p`, with their positions, and the list without them. -/
def takePositioned (p : α → Bool) (items : List α) : List (Nat × α) × List α :=
  let (taken, kept) := (positionedFrom 0 items).partition fun entry => p entry.2
  (taken, kept.map Prod.snd)

/-- Put an item at a position, or at the end of a list that is too short. -/
def insertClamped (items : List α) (position : Nat) (item : α) : List α :=
  items.insertIdx (min position items.length) item

/-- Put items at their positions, in the order given. -/
def insertPositioned (items : List α) (entries : List (Nat × α)) : List α :=
  entries.foldl (fun items entry => insertClamped items entry.1 entry.2) items

end SchemaDiagram
