/-!
# Edit distance

The least number of insertions, deletions and replacements of single elements that turn one list
into another one, computed row by row.
-/

namespace SchemaDiagram

/-- The rest of the next row: `left` is the entry before, `diagonal` the entry of the last row
before, and `above` the rest of the last row. -/
def nextRow {α : Type} [BEq α] (x : α) : (left diagonal : Nat) → List α → List Nat → List Nat
  | left, diagonal, y :: ys, above :: row =>
    let entry := min (min (left + 1) (above + 1)) (diagonal + if x == y then 0 else 1)
    entry :: nextRow x entry above ys row
  | _, _, _, _ => []

/-- The edit distance of two lists.  The row of a prefix of `left` holds its distances to all
prefixes of `right`. -/
def editDistance {α : Type} [BEq α] (left right : List α) : Nat :=
  let first := List.range (right.length + 1)
  let last := left.foldl
    (fun row x =>
      match row with
      | [] => []
      | head :: rest => (head + 1) :: nextRow x (head + 1) head right rest)
    first
  last.getLast?.getD 0

end SchemaDiagram
