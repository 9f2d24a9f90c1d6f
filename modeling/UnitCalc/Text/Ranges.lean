/-!
# Sets of characters given by ranges

A character class is a list of closed ranges of code points. The tables of the classes are
in modules of their own, each named for its class.
-/

namespace UnitCalc.Text

/-- Closed ranges of code points, in increasing order. -/
abbrev Ranges := List (Nat × Nat)

/-- Whether the code point of a character lies in one of the ranges. -/
def Ranges.contains (ranges : Ranges) (c : Char) : Bool :=
  ranges.any fun range => range.1 ≤ c.toNat && c.toNat ≤ range.2

end UnitCalc.Text
