/-
Footprints: how many operand stack slots of each kind a value occupies. Counts are 64-bit words and
their sums wrap around.
-/
import StackTypes.Text.Numeral

namespace StackTypes

/-- The int, string and long slots of a value. -/
structure Footprint where
  ints : Int64
  strings : Int64
  longs : Int64
deriving DecidableEq, Repr

namespace Footprint

/-- No slots at all. -/
def zero : Footprint := ⟨0, 0, 0⟩

/-- Slot by slot sum. -/
def add (f g : Footprint) : Footprint :=
  ⟨f.ints + g.ints, f.strings + g.strings, f.longs + g.longs⟩

instance : Add Footprint := ⟨add⟩

/-- The sum of all footprints in order. -/
def sum (fs : List Footprint) : Footprint :=
  fs.foldl add zero

/-- A footprint as it is displayed. -/
def toText (f : Footprint) : Bytes :=
  utf8 "(" ++ Numeral.ofInt f.ints.toInt ++ utf8 "," ++ Numeral.ofInt f.strings.toInt ++ utf8 ","
    ++ Numeral.ofInt f.longs.toInt ++ utf8 ")"

end Footprint

end StackTypes
