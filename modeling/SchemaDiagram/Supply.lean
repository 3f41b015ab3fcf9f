import SchemaDiagram.Identifier
import SchemaDiagram.Timestamp

/-!
# Supply of fresh marks

What the library cannot make up by itself comes from a supply: fresh identifiers, readings of the
clock and colors.  A supply is a stream of stamps together with the number of stamps already drawn,
so that everything built from it is a function of its argument.
-/

namespace SchemaDiagram

/-- A fresh identifier, a reading of the clock and a color. -/
structure Stamp where
  id : Identifier
  time : Timestamp
  color : String

/-- A stream of stamps and how many of them are used up. -/
structure Supply where
  stamp : Nat → Stamp
  drawn : Nat

namespace Supply

/-- The stamp drawn after `skipped` others. -/
def get (supply : Supply) (skipped : Nat) : Stamp :=
  supply.stamp (supply.drawn + skipped)

/-- The supply left after drawing `count` stamps. -/
def drop (supply : Supply) (count : Nat) : Supply :=
  { supply with drawn := supply.drawn + count }

end Supply

/-- The colors that new tables are painted with. -/
def palette : List String := [
  "#8eb7ff", "#ff6363", "#ff6b8a", "#c05dcf", "#9b85ff", "#7175fa", "#42e0c0", "#4dee8a",
  "#ffe374", "#ffa93a", "#b067e9", "#ff9f74"]

end SchemaDiagram
