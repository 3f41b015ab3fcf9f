import SchemaDiagram.Coordinate
import SchemaDiagram.Model.Diagram

/-!
# Layout

Places for new tables on a canvas where the other tables stay where they are.  A table goes next to
a related one that is already placed, or else to the right of everything, and from there to the
first free cell in rings of growing radius.
-/

namespace SchemaDiagram

/-- The measures of the grid. -/
structure LayoutConfig (κ : Type) where
  horizontalSpacing : κ
  verticalSpacing : κ
  /-- Where the first table on an empty canvas goes. -/
  startX : κ
  startY : κ
  tableWidth : κ
  tableHeight : κ
  deriving Repr

structure TablePosition (κ : Type) where
  tableId : Identifier
  x : κ
  y : κ
  deriving Repr

namespace LayoutConfig

variable {κ : Type} [Coordinate κ]

def standard : LayoutConfig κ where
  horizontalSpacing := Coordinate.ofInt 80
  verticalSpacing := Coordinate.ofInt 100
  startX := Coordinate.ofInt 100
  startY := Coordinate.ofInt 100
  tableWidth := Coordinate.ofInt 280
  tableHeight := Coordinate.ofInt 250

/-- The width of a cell: a table and the space beside it. -/
def cellWidth (config : LayoutConfig κ) : κ :=
  Coordinate.add config.tableWidth config.horizontalSpacing

/-- The height of a cell: a table and the space below it. -/
def cellHeight (config : LayoutConfig κ) : κ :=
  Coordinate.add config.tableHeight config.verticalSpacing

/-- Whether two places are less than a cell apart in both directions. -/
def collides (config : LayoutConfig κ) (left right : κ × κ) : Bool :=
  Coordinate.lt (Coordinate.distance left.1 right.1) config.cellWidth &&
    Coordinate.lt (Coordinate.distance left.2 right.2) config.cellHeight

/-- Whether a place is less than a cell away from an occupied one. -/
def overlaps (config : LayoutConfig κ) (occupied : List (κ × κ)) (place : κ × κ) : Bool :=
  occupied.any (config.collides place)

/-- The whole numbers from `-radius` to `radius`. -/
def span (radius : Nat) : List Int :=
  (List.range (2 * radius + 1)).map fun (i : Nat) => (i : Int) - radius

/-- The cells at a distance from the middle, as steps to the right and down, row by row. -/
def ring (radius : Nat) : List (Int × Int) :=
  (span radius).flatMap fun down =>
    ((span radius).filter fun right => max right.natAbs down.natAbs == radius).map fun right =>
      (right, down)

/-- The place some cells away from an anchor. -/
def cell (config : LayoutConfig κ) (anchor : κ × κ) (steps : Int × Int) : κ × κ :=
  (Coordinate.advance anchor.1 steps.1 config.cellWidth,
    Coordinate.advance anchor.2 steps.2 config.cellHeight)

/-- The radius up to which a free cell is looked for: one place blocks four cells at most, and a
ring of radius `r` has `8 * r` of them. -/
def reach (occupied : List (κ × κ)) : Nat :=
  occupied.length + 1

/-- The first free cell in the rings around an anchor. -/
def freeCell? (config : LayoutConfig κ) (anchor : κ × κ) (occupied : List (κ × κ)) :
    Option (κ × κ) :=
  (List.range (reach occupied + 1)).findSome? fun radius =>
    ((ring radius).map (config.cell anchor)).find? fun place => !config.overlaps occupied place

/-- The first free cell around an anchor, or else a cell beyond all rings. -/
def freeCell (config : LayoutConfig κ) (anchor : κ × κ) (occupied : List (κ × κ)) : κ × κ :=
  (config.freeCell? anchor occupied).getD
    (Coordinate.advance anchor.1 (reach occupied + 1 : Nat) config.cellWidth, anchor.2)

end LayoutConfig

namespace Layout

variable {κ : Type} [Coordinate κ]

/-- The tables related to one, in the order of the relationships.  Relationships at unknown tables
do not count. -/
def neighbours (tables : List (Table κ)) (relationships : List Relationship) (id : Identifier) :
    List Identifier :=
  let isKnown := fun id => tables.any fun table => table.id == id
  relationships.filterMap fun relationship =>
    let source := relationship.source.tableId
    let target := relationship.target.tableId
    if isKnown source && isKnown target then
      if source == id then some target else if target == id then some source else none
    else none

/-- Where to start looking for a place: to the right of a related table, of all tables, or the start
of an empty canvas. -/
def anchor (config : LayoutConfig κ) (positions : List (Identifier × κ × κ))
    (neighbours : List Identifier) : κ × κ :=
  match neighbours.findSome? (fun id => List.lookup id positions) with
  | some (x, y) => (Coordinate.add x config.cellWidth, y)
  | none =>
    match Coordinate.greatest? (positions.map fun position => position.2.1) with
    | some edge =>
      if Coordinate.isFinite edge then (Coordinate.add edge config.cellWidth, config.startY)
      else (config.startX, config.startY)
    | none => (config.startX, config.startY)

/-- Find places for the listed tables, each among the ones placed before. -/
def placeAll (config : LayoutConfig κ) (tables : List (Table κ))
    (relationships : List Relationship) :
    List (Identifier × κ × κ) → List Identifier → List (TablePosition κ)
  | _, [] => []
  | positions, id :: rest =>
    if tables.any fun table => table.id == id then
      let place := config.freeCell (anchor config positions (neighbours tables relationships id))
        (positions.map Prod.snd)
      ⟨id, place.1, place.2⟩ ::
        placeAll config tables relationships (positions ++ [(id, place)]) rest
    else placeAll config tables relationships positions rest

/-- Places for the listed tables among the others. -/
def place (config : LayoutConfig κ) (tables : List (Table κ)) (relationships : List Relationship)
    (ids : List Identifier) : List (TablePosition κ) :=
  placeAll config tables relationships
    ((tables.filter fun table => !ids.contains table.id).map fun table =>
      (table.id, table.x, table.y)) ids

end Layout

end SchemaDiagram
