import UnitCalc.Dimension
import UnitCalc.Text.Quoted

/-!
# Units

A unit is a named amount of a dimension: `factor` times the SI unit of that dimension. A unit
of length, mass or time is a base unit, for it can be chosen to express its axis; every other
unit is derived.
-/

namespace UnitCalc

/-- A named unit: how much one of it is in SI units. -/
structure Unit (K : Type) where
  name : String
  short : String
  symbol : String
  factor : K
  family : String
  dim : Dimension K

namespace Unit

/-- The same unit with its numbers converted. -/
def map {K L : Type} (f : K → L) (u : Unit K) : Unit L :=
  { u with factor := f u.factor, dim := PerAxis.map f u.dim }

variable {K : Type} [Scalar K]

/-- Whether a number can be the factor of a unit: it is positive and finite. -/
def validFactor (factor : K) : Bool :=
  Scalar.lt Scalar.zero factor && Scalar.isFinite factor

/-- The axis that a base unit measures. -/
def axis? (u : Unit K) : Option Axis :=
  u.dim.axis?

/-- Whether a unit measures length, mass or time. -/
def isBase (u : Unit K) : Bool :=
  u.axis?.isSome

/-- How far factors may differ, in proportion, for two units to be one. -/
def tolerance : K := Scalar.ofDecimal 1 (-12)

/-- Units are equal if they have one name, one dimension and nearly one factor. -/
def eq (u v : Unit K) : Bool :=
  u.name == v.name && u.dim.eq v.dim &&
    Scalar.isClose tolerance Scalar.zero u.factor v.factor

/-- The text that shows a unit in full. -/
def text (u : Unit K) : String :=
  s!"Unit({Text.quote u.name}, factor={Scalar.fullText u.factor}, dim={u.dim.text})"

/-! ## SI base units -/

/-- The SI unit of length. -/
def meter : Unit K := ⟨"meter", "m", "m", Scalar.one, "length", .ofAxis .length⟩

/-- The SI unit of mass. -/
def kilogram : Unit K := ⟨"kilogram", "kg", "kg", Scalar.one, "mass", .ofAxis .mass⟩

/-- The SI unit of time. -/
def second : Unit K := ⟨"second", "s", "s", Scalar.one, "time", .ofAxis .time⟩

end Unit

end UnitCalc
