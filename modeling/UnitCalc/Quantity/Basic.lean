import UnitCalc.Context

/-!
# Quantities

A quantity is a value together with the dimension it measures and the context it is
expressed in: it stands for `value * context ^ dim`. This module holds the type and its text.
-/

namespace UnitCalc

/-- A value expressed in the units of a context, each raised to the exponent of its axis. -/
structure Quantity (K : Type) where
  value : K
  dim : Dimension K
  units : Context K

namespace Quantity

variable {K : Type} [Scalar K]

/-- A plain number. -/
def ofValue (x : K) : Quantity K := ⟨x, .zero, .si⟩

/-- Whether a quantity is a plain number, in whatever context. -/
def isDimensionless (q : Quantity K) : Bool :=
  q.dim.isZero

/-! ## Text -/

/-- The superscript of a digit or minus. -/
def superscript (c : Char) : Char :=
  match c with
  | '0' => '⁰'
  | '1' => '¹'
  | '2' => '²'
  | '3' => '³'
  | '4' => '⁴'
  | '5' => '⁵'
  | '6' => '⁶'
  | '7' => '⁷'
  | '8' => '⁸'
  | '9' => '⁹'
  | '-' => '⁻'
  | _ => c

/-- An integer in superscripts. -/
def raisedText (n : Int) : String :=
  String.ofList ((Number.intText n).toList.map superscript)

/-- A symbol with its exponent: in superscripts if it is whole, with no mark if it is one,
and in brackets otherwise. -/
def poweredText (symbol : String) (exponent : K) : String :=
  match Scalar.toInt? exponent with
  | some n => if n = 1 then symbol else symbol ++ raisedText n
  | none => s!"{symbol}^({Scalar.briefText exponent})"

/-- A value: an integer if it is whole, and else ten significant digits. -/
def valueText (x : K) : String :=
  match Scalar.toInt? x with
  | some n => Number.intText n
  | none => Scalar.briefText x

/-- Puts a symbol before the first one with a smaller exponent, so that equal exponents keep
their order when a list is inserted from its end. -/
def insertPart (part : String × K) : List (String × K) → List (String × K)
  | [] => [part]
  | other :: rest =>
    if Scalar.lt part.2 other.2 then other :: insertPart part rest else part :: other :: rest

/-- Symbols by decreasing exponent; equal exponents keep their order. -/
def sortParts (parts : List (String × K)) : List (String × K) :=
  parts.foldr insertPart []

/-- Symbols with their exponents, joined by dots. -/
def productText (parts : List (String × K)) : String :=
  "·".intercalate (parts.map fun part => poweredText part.1 part.2)

/-- The units of a context raised to a dimension. Positive exponents come first, the largest
first; the others follow a slash, the most negative first. Equal exponents keep the order of
length, mass and time. -/
def unitsText (dim : Dimension K) (units : Context K) : String :=
  let parts := Axis.all.map fun a => ((units.get a).symbol, dim.get a)
  let above := parts.filter fun part => Scalar.lt Scalar.zero part.2
  let below := (parts.filter fun part => Scalar.lt part.2 Scalar.zero).map
    fun part => (part.1, Scalar.neg part.2)
  let numerator := productText (sortParts above)
  let denominator := productText (sortParts below)
  if below.isEmpty then numerator
  else if above.isEmpty then "1/" ++ denominator
  else numerator ++ "/" ++ denominator

/-- The text of a quantity: its value and its units. -/
def text (q : Quantity K) : String :=
  let units := unitsText q.dim q.units
  if units.isEmpty then valueText q.value else valueText q.value ++ " " ++ units

end Quantity

end UnitCalc
