import UnitCalc.Number.Gamma
import UnitCalc.Number.Numeral
import UnitCalc.Number.Written
import UnitCalc.Scalar

/-!
# Doubles as scalars

The arithmetic that the calculator runs on: IEEE double precision, with powers, logarithms
and the gamma function that tell apart the ways in which they can fail.
-/

namespace UnitCalc.Number

/-! ## Decimals -/

def infinity : Float := 1 / 0

/-- The double nearest to `digits * 10 ^ exponent`. Above `10 ^ 310` it is infinite and below
`10 ^ -330` it is zero, which is decided before any power of ten is computed. -/
def ofDecimal (digits : Nat) (exponent : Int) : Float :=
  if digits = 0 then 0
  else if exponent + digitCount digits > 310 then infinity
  else if exponent + digitCount digits < -330 then 0
  else Float.ofScientific digits (exponent < 0) exponent.natAbs

/-- The double that a text was read as. -/
def ofReading : Numeral.Reading → Float
  | .decimal negative digits exponent =>
    if negative then -ofDecimal digits exponent else ofDecimal digits exponent
  | .infinite negative => if negative then -infinity else infinity
  | .notANumber => 0 / 0

/-- The double that a text stands for, if it is a number. -/
def ofText? (s : String) : Option Float :=
  (Numeral.Reading.ofText? s).map ofReading

/-! ## Powers -/

/-- Whether a number is an odd integer. -/
def isOdd (x : Float) : Bool :=
  match toInt? x with
  | some n => n % 2 == 1
  | none => false

/-- Whether the sign bit is set. -/
def isNegative (x : Float) : Bool :=
  x.toBits.toNat / Nat.pow 2 63 == 1

/-- The power of a positive finite base and a finite exponent. The first power is the base
itself. -/
def positivePower (x y : Float) : Float :=
  if y == 1 then x else Float.pow x y

/-- The power of two finite numbers, neither of them zero: a negative base needs a whole
exponent, and an odd one restores its sign. -/
def finitePower (x y : Float) : Power Float :=
  let r := positivePower x.abs y
  if r.isInf then .overflow
  else if x < 0 then
    if (toInt? y).isNone then .notReal else .value (if isOdd y then -r else r)
  else .value r

/-- One number raised to the power of another. -/
def power (x y : Float) : Power Float :=
  if y == 0 then .value 1
  else if x.isNaN then .value x
  else if y.isNaN then .value (if x == 1 then 1 else y)
  else if y.isInf then
    let a := x.abs
    .value (if a == 1 then 1 else if (y > 0) == (a > 1) then infinity else 0)
  else if x.isInf then
    if y > 0 then .value (if isOdd y then x else infinity)
    else .value (if isOdd y && isNegative x then -0.0 else 0)
  else if x == 0 then
    if y < 0 then .zeroToNegative else .value (if isOdd y then x else 0)
  else finitePower x y

/-! ## The scalar structure -/

/-- A logarithm of a positive number; an infinite argument has an infinite one. -/
def logarithm? (log : Float → Float) (x : Float) : Option Float :=
  if x.isNaN then some x else if x > 0 then some (log x) else none

instance : Scalar Float where
  ofInt := Float.ofInt
  ofDecimal := ofDecimal
  e := 2.718281828459045
  pi := Gamma.pi
  neg x := -x
  abs := Float.abs
  add := (· + ·)
  sub := (· - ·)
  mul := (· * ·)
  div := (· / ·)
  eq x y := x == y
  lt x y := x < y
  le x y := x ≤ y
  isFinite := Float.isFinite
  isInfinite := Float.isInf
  isNegative := isNegative
  pow := power
  remainder? := remainder?
  log? := logarithm? Float.log10
  ln? := logarithm? Float.log
  gamma? := Gamma.gamma?
  toInt? := toInt?
  fullText := fullText
  briefText := briefText

end UnitCalc.Number
