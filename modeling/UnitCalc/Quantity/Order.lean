import UnitCalc.Quantity.Arithmetic
import UnitCalc.Text.Blank

/-!
# Comparison of quantities

Quantities of one dimension are ordered by their SI amounts, with a tolerance that keeps
rounding from telling equal amounts apart: of any two amounts, one is smaller, or the other
is, or they are close. Equality is stricter and asks for equal contexts.
-/

namespace UnitCalc

namespace Quantity

variable {K : Type} [Scalar K]

/-- How far values may differ, in proportion, and still count as equal. -/
def tolerance : K := Scalar.ofDecimal 1 (-12)

/-- How far amounts may differ, in proportion, and still count as close by default. -/
def closeTolerance : K := Scalar.ofDecimal 1 (-9)

/-- Whether two quantities have one dimension, one context and nearly one value. -/
def eq (q r : Quantity K) : Bool :=
  q.dim.eq r.dim && q.units.eq r.units && Scalar.isClose tolerance Scalar.zero q.value r.value

/-- Whether two quantities have one dimension and SI amounts within the tolerances. -/
def isClose (q r : Quantity K) (relative absolute : K) : Except (Fault K) Bool :=
  if !q.dim.eq r.dim then .ok false
  else do
    let a ← q.toSI
    let b ← r.toSI
    if Scalar.lt relative Scalar.zero || Scalar.lt absolute Scalar.zero then
      .error (.breakdown .negativeTolerance)
    else .ok (Scalar.isClose relative absolute a.value b.value)

/-- The SI amounts of two quantities of one dimension. -/
def amounts (q r : Quantity K) : Except (Fault K) (K × K) := do
  checkSameDim .compare q r
  let a ← q.toSI
  let b ← r.toSI
  .ok (a.value, b.value)

/-- Whether two amounts count as equal in comparisons. -/
def closeAmounts (a b : K) : Bool :=
  Scalar.isClose tolerance Scalar.zero a b

/-- Whether a quantity is smaller than another, and not just by rounding. -/
def lt (q r : Quantity K) : Except (Fault K) Bool := do
  let (a, b) ← amounts q r
  .ok (Scalar.lt a b && !closeAmounts a b)

/-- Whether a quantity is smaller than another, or close to it. -/
def le (q r : Quantity K) : Except (Fault K) Bool := do
  let (a, b) ← amounts q r
  .ok (Scalar.lt a b || closeAmounts a b)

/-- Whether a quantity is larger than another, and not just by rounding. -/
def gt (q r : Quantity K) : Except (Fault K) Bool := do
  let (a, b) ← amounts q r
  .ok (Scalar.lt b a && !closeAmounts a b)

/-- Whether a quantity is larger than another, or close to it. -/
def ge (q r : Quantity K) : Except (Fault K) Bool := do
  let (a, b) ← amounts q r
  .ok (Scalar.lt b a || closeAmounts a b)

end Quantity

/-! ## Display -/

/-- The ways to show a quantity: in its own context, or in SI units. -/
inductive Display where
  | native
  | si
deriving Repr, DecidableEq

namespace Display

/-- Reads the name of a display. Blanks around it and case do not matter, and no name at all
means the native one. -/
def ofName? (name : String) : Option Display :=
  let word := (Text.trim name.toList).map Char.toLower
  if word = [] ∨ word = "native".toList then some .native
  else if word = "si".toList then some .si
  else none

/-- What is said of a name that no display has. -/
def unknownMessage : String := "Unknown format spec; use '', 'native', or 'si'"

/-- The text of a quantity in a display. -/
def render {K : Type} [Scalar K] (display : Display) (q : Quantity K) :
    Except (Fault K) String :=
  match display with
  | .native => .ok q.text
  | .si => (q.toSI).map Quantity.text

end Display

end UnitCalc
