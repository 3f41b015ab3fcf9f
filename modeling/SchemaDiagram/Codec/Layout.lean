import SchemaDiagram.Codec.Entity
import SchemaDiagram.Layout

/-!
# The JSON form of layouts

The measures of the grid, each of which has its usual value unless another one is given, and the
places that were found.
-/

namespace SchemaDiagram

open Json (object? optionalOr?)

variable {κ : Type} [CoordinateCodec κ]

namespace LayoutConfig

/-- The measures as a record. -/
def toJson (config : LayoutConfig κ) : Json :=
  .object [
    ("horizontalSpacing", CoordinateCodec.toJson config.horizontalSpacing),
    ("verticalSpacing", CoordinateCodec.toJson config.verticalSpacing),
    ("startX", CoordinateCodec.toJson config.startX),
    ("startY", CoordinateCodec.toJson config.startY),
    ("tableWidth", CoordinateCodec.toJson config.tableWidth),
    ("tableHeight", CoordinateCodec.toJson config.tableHeight)]

/-- Read a measure that may be missing. -/
def measure? (name : String) (default : κ) (members : List (String × Json)) : Option κ :=
  optionalOr? name default CoordinateCodec.ofJson? members

/-- Read measures; the usual ones stand in for those that are missing. -/
def ofJson? [Coordinate κ] (json : Json) : Option (LayoutConfig κ) := do
  let members ← object? json
  let usual : LayoutConfig κ := standard
  return {
    horizontalSpacing := ← measure? "horizontalSpacing" usual.horizontalSpacing members
    verticalSpacing := ← measure? "verticalSpacing" usual.verticalSpacing members
    startX := ← measure? "startX" usual.startX members
    startY := ← measure? "startY" usual.startY members
    tableWidth := ← measure? "tableWidth" usual.tableWidth members
    tableHeight := ← measure? "tableHeight" usual.tableHeight members }

end LayoutConfig

def TablePosition.toJson (position : TablePosition κ) : Json :=
  .object [
    ("tableId", position.tableId.toJson),
    ("x", CoordinateCodec.toJson position.x),
    ("y", CoordinateCodec.toJson position.y)]

end SchemaDiagram
