import UnitCalc.Number.Binary

/-!
# Decimals of doubles

Two ways to give a double by few decimal digits, both in exact arithmetic: the shortest
decimal that reads back as the double, and the nearest decimal with a given number of
significant digits.
-/

namespace UnitCalc.Number

/-- An integer times a power of ten. -/
structure Decimal where
  digits : Nat
  exponent : Int
deriving Repr, DecidableEq

/-- The number of decimal digits of a natural number. -/
def digitCount (n : Nat) : Nat :=
  (Nat.toDigits 10 n).length

/-- The power of ten of the first digit of the positive fraction `n / d`: it is the `k` with
`10 ^ k ≤ n / d < 10 ^ (k + 1)`. -/
def leadingPower (n d : Nat) : Int :=
  if d ≤ n then digitCount (n / d) - 1 else -(digitCount ((d - 1) / n) : Nat)

/-- The fraction `n / d` over the unit `10 ^ u`. -/
def overUnit (n d : Nat) (u : Int) : Nat × Nat :=
  if 0 ≤ u then (n, d * Nat.pow 10 u.toNat) else (n * Nat.pow 10 (-u).toNat, d)

/-! ## Significant digits -/

/-- The quotient of two naturals rounded to the nearest natural; a half goes to the even
neighbour. -/
def roundDiv (n d : Nat) : Nat :=
  let q := n / d
  let twice := 2 * (n % d)
  if twice < d ∨ twice = d ∧ q % 2 = 0 then q else q + 1

/-- The nearest decimal with a given number of significant digits. -/
def Binary.rounded (count : Nat) (b : Binary) : Decimal :=
  if b.mantissa = 0 then ⟨0, 0⟩
  else
    let (n, d) := b.fraction
    let u := leadingPower n d + 1 - count
    let (n, d) := overUnit n d u
    ⟨roundDiv n d, u⟩

/-! ## Shortest digits -/

/-- The numbers that read back as one double: the fractions over one denominator between two
bounds, and whether the bounds belong to them. -/
structure ReadBack where
  lower : Nat
  value : Nat
  upper : Nat
  denominator : Nat
  closed : Bool

/-- The numbers that round to a positive double: up to half the distance to its neighbours.
The lower neighbour of a power of two is nearer, unless it is as small as doubles get. A
half goes to an even mantissa. -/
def Binary.readBack (b : Binary) : ReadBack :=
  let (scale, d) : Nat × Nat := Binary.fraction ⟨false, 1, b.exponent⟩
  let below := if b.mantissa = fullMantissa ∧ b.exponent ≠ leastExponent then 1 else 2
  { lower := (4 * b.mantissa - below) * scale
    value := 4 * b.mantissa * scale
    upper := (4 * b.mantissa + 2) * scale
    denominator := 4 * d
    closed := b.mantissa % 2 == 0 }

/-- Whether the natural `c`, counted in units of the denominator, reads back. -/
def ReadBack.holds (r : ReadBack) (c : Nat) : Bool :=
  if r.closed then r.lower ≤ c * r.denominator && c * r.denominator ≤ r.upper
  else r.lower < c * r.denominator && c * r.denominator < r.upper

/-- The same numbers counted in the unit `10 ^ u`. -/
def ReadBack.over (r : ReadBack) (u : Int) : ReadBack :=
  if 0 ≤ u then { r with denominator := r.denominator * Nat.pow 10 u.toNat }
  else
    let s := Nat.pow 10 (-u).toNat
    { r with lower := r.lower * s, value := r.value * s, upper := r.upper * s }

/-- The natural nearest to the value that reads back, if one of the two neighbours of the
value does. -/
def ReadBack.nearest? (r : ReadBack) : Option Nat :=
  let c := r.value / r.denominator
  match r.holds c, r.holds (c + 1) with
  | true, true => some (roundDiv r.value r.denominator)
  | true, false => some c
  | false, true => some (c + 1)
  | false, false => none

/-- The first decimal that reads back among those with `count` digits or more, tried for
`tries` counts; `k` is the power of ten of the first digit. -/
def ReadBack.firstFrom (r : ReadBack) (k : Int) : (tries count : Nat) → Option Decimal
  | 0, _ => none
  | tries + 1, count =>
    let u := k + 1 - count
    match (r.over u).nearest? with
    | some c => some ⟨c, u⟩
    | none => firstFrom r k tries (count + 1)

/-- The shortest decimal that reads back, the nearest of the shortest ones. Seventeen digits
are always enough. -/
def Binary.shortest (b : Binary) : Decimal :=
  if b.mantissa = 0 then ⟨0, 0⟩
  else
    let (n, d) := b.fraction
    (b.readBack.firstFrom (leadingPower n d) 17 1).getD (b.rounded 17)

end UnitCalc.Number
