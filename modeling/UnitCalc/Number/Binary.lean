/-!
# Exact values of doubles

A finite double is an integer times a power of two. Everything that has to be exact about
doubles is computed on that pair: whether the value is whole, the remainder of a division,
and the decimal texts.
-/

namespace UnitCalc.Number

/-- The exact value of a finite double: the mantissa times two to the exponent, with a sign
that zero has too. -/
structure Binary where
  negative : Bool
  mantissa : Nat
  exponent : Int
deriving Repr, DecidableEq

namespace Binary

/-- The exponent of the smallest positive double. -/
def leastExponent : Int := -1074

/-- The least mantissa of the doubles that have all their digits. -/
def fullMantissa : Nat := Nat.pow 2 52

/-- The exact value of a double, if it is finite. -/
def ofFloat? (x : Float) : Option Binary :=
  let bits := x.toBits.toNat
  let negative := bits / Nat.pow 2 63 == 1
  let mantissa := bits % fullMantissa
  match bits / fullMantissa % 2048 with
  | 2047 => none
  | 0 => some ⟨negative, mantissa, leastExponent⟩
  | e + 1 => some ⟨negative, fullMantissa + mantissa, leastExponent + e⟩

/-- The double of a value that fits: a mantissa below `2 ^ 53` and no exponent below the
least one. -/
def toFloat (b : Binary) : Float :=
  let room := 52 - b.mantissa.log2
  let shift := min room (b.exponent - leastExponent).toNat
  let mantissa := b.mantissa * Nat.pow 2 shift
  let field := (b.exponent - shift - leastExponent).toNat
  let magnitude :=
    if mantissa < fullMantissa then mantissa
    else (field + 1) * fullMantissa + (mantissa - fullMantissa)
  let sign := if b.negative then Nat.pow 2 63 else 0
  Float.ofBits (UInt64.ofNat (sign + magnitude))

/-- The magnitude as a fraction of naturals. -/
def fraction (b : Binary) : Nat × Nat :=
  if 0 ≤ b.exponent then (b.mantissa * Nat.pow 2 b.exponent.toNat, 1)
  else (b.mantissa, Nat.pow 2 (-b.exponent).toNat)

/-- The value as an integer, if it is whole. -/
def toInt? (b : Binary) : Option Int :=
  let (n, d) := b.fraction
  if n % d = 0 then some (if b.negative then -(n / d : Nat) else (n / d : Nat)) else none

/-- The remainder of a division that is truncated toward zero; it has the sign of the
dividend, and it is exact. -/
def remainder (a b : Binary) : Binary :=
  let e := min a.exponent b.exponent
  let m := a.mantissa * Nat.pow 2 (a.exponent - e).toNat
  let n := b.mantissa * Nat.pow 2 (b.exponent - e).toNat
  ⟨a.negative, m % n, e⟩

end Binary

/-- The integer that a double is, if it is finite and whole. -/
def toInt? (x : Float) : Option Int :=
  (Binary.ofFloat? x).bind Binary.toInt?

/-- The remainder of a truncating division. It has no value where the dividend is infinite
and the divisor a number, or where a number is divided by zero. -/
def remainder? (x y : Float) : Option Float :=
  if x.isNaN then some x
  else if y.isNaN then some y
  else
    match Binary.ofFloat? x, Binary.ofFloat? y with
    | none, _ => none
    | some _, none => some x
    | some a, some b => if b.mantissa = 0 then none else some (a.remainder b).toFloat

end UnitCalc.Number
