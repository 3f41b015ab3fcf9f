/-!
# UTF-16 code units

A text as the sequence of its 16-bit code units: one unit for a character of the basic plane and a
surrogate pair for every other one.
-/

namespace SchemaDiagram.Text

/-- The UTF-16 code units of one character. -/
def charUnits (c : Char) : List Nat :=
  if c.toNat < 0x10000 then [c.toNat]
  else [0xD800 + (c.toNat - 0x10000) / 0x400, 0xDC00 + (c.toNat - 0x10000) % 0x400]

/-- The UTF-16 code units of a text. -/
def units (text : List Char) : List Nat :=
  text.flatMap charUnits

end SchemaDiagram.Text
