namespace SchemaMigration.Text

/-!
# Stretches of code points

Character properties and case mappings are tabulated as stretches: arithmetic
progressions of code points, usually with step one, or with step two where
upper and lower case letters alternate.
-/

/-- The code points `first`, `first + step`, … up to `last`. -/
structure Stretch where
  first : Nat
  last : Nat
  step : Nat
  deriving DecidableEq

namespace Stretch

/-- Whether a code point lies on the stretch. -/
def holds (stretch : Stretch) (point : Nat) : Bool :=
  decide (stretch.first ≤ point) && decide (point ≤ stretch.last) &&
    decide ((point - stretch.first) % stretch.step = 0)

end Stretch

/-- Whether some stretch of a table holds the character. -/
def inTable (table : List Stretch) (c : Char) : Bool :=
  table.any (fun stretch => stretch.holds c.toNat)

/-- A stretch whose code points all move by the same signed distance. -/
structure Shift where
  source : Stretch
  distance : Int
  deriving DecidableEq

namespace Shift

/-- The image of a code point, when the shift applies to it. -/
def image? (shift : Shift) (point : Nat) : Option Char :=
  if shift.source.holds point then
    some (Char.ofNat (Int.toNat (Int.ofNat point + shift.distance)))
  else
    none

end Shift

/-- The image of a character under the first shift that applies to it. -/
def shifted? (table : List Shift) (c : Char) : Option Char :=
  table.findSome? (fun shift => shift.image? c.toNat)

end SchemaMigration.Text
