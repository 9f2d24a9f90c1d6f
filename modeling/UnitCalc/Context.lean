import UnitCalc.Unit

/-!
# Unit contexts

A context chooses the unit that expresses each axis. The amount that one `context ^ dim`
stands for is the product of the factors of the units, each raised to the exponent of its
axis.
-/

namespace UnitCalc

/-- The unit chosen for each axis. -/
abbrev Context (K : Type) := PerAxis (Unit K)

/-- A unit that does not measure the axis it is chosen for. -/
structure AxisFault where
  axis : Axis
  unit : String
deriving Repr, DecidableEq

/-- What is said of a unit that does not measure its axis. -/
def AxisFault.message (f : AxisFault) : String :=
  s!"{f.axis.name} unit must have dimension [{f.axis.letter}^1], got {Text.quote f.unit}"

namespace Context

variable {K : Type} [Scalar K]

/-- The SI units. -/
def si : Context K := ⟨.meter, .kilogram, .second⟩

/-- The context of three units, each of which has to measure its axis. -/
def ofUnits (length mass time : Unit K) : Except AxisFault (Context K) :=
  let c : Context K := ⟨length, mass, time⟩
  match Axis.all.find? fun a => !(c.get a).dim.eq (.ofAxis a) with
  | none => .ok c
  | some axis => .error ⟨axis, (c.get axis).name⟩

/-- Replaces the unit of an axis by one that measures it. -/
def withAxis (c : Context K) (axis : Axis) (u : Unit K) : Except AxisFault (Context K) :=
  let c := c.set u axis
  ofUnits c.length c.mass c.time

/-- Whether two contexts choose equal units. -/
def eq (c c' : Context K) : Bool :=
  (c.zipWith Unit.eq c').all id

theorem eq_iff {c c' : Context K} :
    c.eq c' = true ↔ ∀ a, (c.get a).eq (c'.get a) = true := by
  simp [eq, PerAxis.all_iff]

/-- The text of a context: the symbols of its units. -/
def text (c : Context K) : String :=
  s!"Units({c.length.symbol}, {c.mass.symbol}, {c.time.symbol})"

/-- One factor of a conversion: a unit raised to an exponent, or none if that is too large.
An axis that the dimension does not have counts as one. -/
def scale? (product : K) (u : Unit K) (exponent : K) : Option K :=
  if Scalar.isZero exponent then some product
  else
    match Scalar.pow u.factor exponent with
    | .value p => some (Scalar.mul product p)
    | _ => none

/-- The SI amount of one `context ^ dim`. There is none if the power of a factor is too large
to be finite. -/
def conversionFactor? (c : Context K) (dim : Dimension K) : Option K := do
  let f ← scale? Scalar.one c.length dim.length
  let f ← scale? f c.mass dim.mass
  scale? f c.time dim.time

/-- The unit of one axis in a merged context: the left one, unless only the right operand has
the axis. -/
def pick (left right : Unit K) (leftExponent rightExponent : K) : Unit K :=
  if Scalar.isZero leftExponent && !Scalar.isZero rightExponent then right else left

/-- Combines the contexts of two operands axis by axis. -/
def merge (c c' : Context K) (dim dim' : Dimension K) : Context K where
  length := pick c.length c'.length dim.length dim'.length
  mass := pick c.mass c'.mass dim.mass dim'.mass
  time := pick c.time c'.time dim.time dim'.time

@[simp] theorem get_merge (c c' : Context K) (dim dim' : Dimension K) (a : Axis) :
    (c.merge c' dim dim').get a = pick (c.get a) (c'.get a) (dim.get a) (dim'.get a) := by
  cases a <;> rfl

end Context

end UnitCalc
