/-!
# Scalars

The numbers a quantity is made of: its value, the exponents of its dimension, the factors of
its units. The arithmetic of quantities is written once, for every type with the operations
below. The calculator runs it on doubles; exact numbers can be put in their place.
-/

namespace UnitCalc

/-- What comes of raising one number to the power of another. -/
inductive Power (K : Type) where
  | value (x : K)
  /-- Zero raised to a negative power. -/
  | zeroToNegative
  /-- Finite operands with a result that is too large. -/
  | overflow
  /-- A negative number raised to a fractional power. -/
  | notReal
deriving Repr, DecidableEq

/-- The same outcome, with its number converted. -/
def Power.map {K L : Type} (f : K → L) : Power K → Power L
  | .value x => .value (f x)
  | .zeroToNegative => .zeroToNegative
  | .overflow => .overflow
  | .notReal => .notReal

/-- The operations on numbers that quantities need. -/
class Scalar (K : Type) where
  /-- The integer as a number. -/
  ofInt : Int → K
  /-- The number `digits * 10 ^ exponent`; too large a one is not finite. -/
  ofDecimal : (digits : Nat) → (exponent : Int) → K
  /-- The base of the natural logarithm. -/
  e : K
  /-- The ratio of a circle's circumference to its diameter. -/
  pi : K
  neg : K → K
  abs : K → K
  add : K → K → K
  sub : K → K → K
  mul : K → K → K
  div : K → K → K
  /-- Numerical equality. -/
  eq : K → K → Bool
  lt : K → K → Bool
  le : K → K → Bool
  isFinite : K → Bool
  isInfinite : K → Bool
  /-- Whether the sign is minus; a zero may have one, too. -/
  isNegative : K → Bool
  pow : K → K → Power K
  /-- The remainder of a truncating division, where it is defined. -/
  remainder? : K → K → Option K
  /-- The decimal logarithm, where it is defined. -/
  log? : K → Option K
  /-- The natural logarithm, where it is defined. -/
  ln? : K → Option K
  /-- The gamma function, where it is defined and its result is not too large. -/
  gamma? : K → Option K
  /-- The integer that a number is, if it is whole. -/
  toInt? : K → Option Int
  /-- The text that tells a number from every other. -/
  fullText : K → String
  /-- The text with ten significant digits. -/
  briefText : K → String

namespace Scalar

variable {K : Type} [Scalar K]

def zero : K := ofInt 0
def one : K := ofInt 1

/-- One half. -/
def half : K := ofDecimal 5 (-1)

def isZero (x : K) : Bool := eq x zero

/-- Whether two numbers differ by no more than `relative` times the larger of their
magnitudes, or by no more than `absolute`. An infinity is close to itself only. -/
def isClose (relative absolute a b : K) : Bool :=
  if eq a b then true
  else if isInfinite a || isInfinite b then false
  else
    let distance := abs (sub b a)
    le distance (abs (mul relative b)) || le distance (abs (mul relative a)) ||
      le distance absolute

/-- The number with a minus if `negative` holds. -/
def withSign (negative : Bool) (x : K) : K :=
  if negative then neg x else x

end Scalar

end UnitCalc
