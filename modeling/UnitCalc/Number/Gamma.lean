import UnitCalc.Number.Binary

/-!
# The gamma function

Whole arguments up to 23 have exact results. Elsewhere the function is the Lanczos
approximation with thirteen terms, and the reflection formula extends it to negative
arguments. The poles (zero and the negative integers) have no result, and neither has an
argument whose result is too large.
-/

namespace UnitCalc.Number.Gamma

/-- The constant of the approximation, less one half. -/
def shift : Float := 5.524680040776729583740234375

/-- The constant of the approximation. -/
def constant : Float := 6.024680040776729583740234375

/-- The coefficients of the sum: numerator and denominator of each power, the lowest
first. -/
def coefficients : List (Float × Float) := [
  (23531376880.410759688572007674451636754734846804940, 0),
  (42919803642.649098768957899047001988850926355848959, 39916800),
  (35711959237.355668049440185451547166705960488635843, 120543840),
  (17921034426.037209699919755754458931112671403265390, 150917976),
  (6039542586.3520280050642916443072979210699388420708, 105258076),
  (1439720407.3117216736632230727949123939715485786372, 45995730),
  (248874557.86205415651146038641322942321632125127801, 13339535),
  (31426415.585400194380614231628318205362874684987640, 2637558),
  (2876370.6289353724412254090516208496135991145378768, 357423),
  (186056.26539522349504029498971604569928220784236328, 32670),
  (8071.6720023658162106380029022722506138218516325024, 1925),
  (210.82427775157934587250973392071336271166969580291, 66),
  (2.5066282746310002701649081771338373386264310793408, 1)]

/-- The quotient of the two sums, which is evaluated in the direction that does not
overflow. -/
def lanczosSum (x : Float) : Float :=
  let (num, den) :=
    if x < 5 then
      coefficients.foldr (fun (a, b) (num, den) => (num * x + a, den * x + b)) (0, 0)
    else
      coefficients.foldl (fun (num, den) (a, b) => (num / x + a, den / x + b)) (0, 0)
  num / den

def pi : Float := 3.141592653589793

/-- The sine of `pi * x`, by the quarter turn that `x` lies in. -/
def sinPi (x : Float) : Float :=
  let y := (remainder? x.abs 2).getD 0
  let r :=
    if y < 0.25 then Float.sin (pi * y)
    else if y < 0.75 then Float.cos (pi * (y - 0.5))
    else if y < 1.25 then Float.sin (pi * (1 - y))
    else if y < 1.75 then -Float.cos (pi * (y - 1.5))
    else Float.sin (pi * (y - 2))
  if x < 0 then -r else r

/-- The factorial of a natural number. -/
def factorial : Nat → Nat
  | 0 => 1
  | n + 1 => (n + 1) * factorial n

/-- The part of the Lanczos constant that is lost when it is added to `a`, in proportion. -/
def lostPart (a y : Float) : Float :=
  let z := if a > shift then (y - a) - shift else (y - shift) - a
  z * constant / y

/-- The approximation at an argument between the very small and 200 in magnitude. -/
def lanczos (x : Float) : Float :=
  let a := x.abs
  let y := a + shift
  let z := lostPart a y
  if x < 0 then
    let r := -pi / sinPi a / a * Float.exp y / lanczosSum a
    let r := r - z * r
    if a < 140 then r / Float.pow y (a - 0.5)
    else
      let root := Float.pow y (a / 2 - 0.25)
      r / root / root
  else
    let r := lanczosSum a / Float.exp y
    let r := r + z * r
    if a < 140 then r * Float.pow y (a - 0.5)
    else
      let root := Float.pow y (a / 2 - 0.25)
      r * root * root

/-- A result that is not too large. -/
def bounded (r : Float) : Option Float :=
  if r.isInf then none else some r

/-- The gamma function, where it has a result. -/
def gamma? (x : Float) : Option Float :=
  if x.isNaN then some x
  else if x.isInf then if x > 0 then some x else none
  else
    match toInt? x with
    | some n =>
      if n ≤ 0 then none
      else if n ≤ 23 then some (Float.ofNat (factorial (n.toNat - 1)))
      else if n > 200 then none
      else bounded (lanczos x)
    | none =>
      if x.abs < 1e-20 then bounded (1 / x)
      else if x < -200 then some (0 / sinPi x)
      else if x > 200 then none
      else bounded (lanczos x)

end UnitCalc.Number.Gamma
