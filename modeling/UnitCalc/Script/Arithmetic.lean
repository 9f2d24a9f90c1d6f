import UnitCalc.Script.Plain

/-!
# Arithmetic of plain numbers

Integers, among which truth values count, have exact sums, differences, products and powers.
Wherever a double takes part the operands become doubles first, and an integer that has none
near it is a fault. Quotients are doubles in any case. The remainder has the sign of the
divisor.
-/

namespace UnitCalc.Script.Plain

/-- Two numbers combined: exactly if both are integers, and else as doubles. -/
def combine (onIntegers : Int → Int → Int) (onDoubles : Float → Float → Float) (x y : Plain) :
    Except PlainFault Plain :=
  match x.integer?, y.integer? with
  | some m, some n => .ok (.int (onIntegers m n))
  | _, _ => do return .float (onDoubles (← x.double) (← y.double))

def add : Plain → Plain → Except PlainFault Plain := combine (· + ·) (· + ·)

def sub : Plain → Plain → Except PlainFault Plain := combine (· - ·) (· - ·)

def mul : Plain → Plain → Except PlainFault Plain := combine (· * ·) (· * ·)

/-- The quotient; that of two integers is the double nearest to it. -/
def div (x y : Plain) : Except PlainFault Plain :=
  match x.integer?, y.integer? with
  | some m, some n =>
    if n = 0 then .error .divisionByZero
    else
      match Number.quotient? m n with
      | some q => .ok (.float q)
      | none => .error .quotientTooLarge
  | _, _ => do
    let a ← x.double
    let b ← y.double
    if b == 0 then .error .doubleDivisionByZero else .ok (.float (a / b))

/-- The remainder of two doubles with the sign of the divisor, which zero has, too. -/
def floorRemainder (x y : Float) : Float :=
  match Number.remainder? x y with
  | none => 0 / 0
  | some r =>
    if r == 0 then (if Number.isNegative y then -0.0 else 0)
    else if (y < 0) == (r < 0) then r
    else r + y

/-- The remainder of a division that is rounded down. -/
def mod (x y : Plain) : Except PlainFault Plain :=
  match x.integer?, y.integer? with
  | some m, some n =>
    if n = 0 then .error .moduloByZero else .ok (.int (m.fmod n))
  | _, _ => do
    let a ← x.double
    let b ← y.double
    if b == 0 then .error .doubleModuloByZero else .ok (.float (floorRemainder a b))

/-! ## Powers -/

/-- The power of an integer. Whatever the exponent, nothing is multiplied where the base is
one, zero or minus one. -/
def wholePower (m : Int) (n : Nat) : Int :=
  if n = 0 then 1
  else if m = 0 ∨ m = 1 then m
  else if m = -1 then (if n % 2 = 0 then 1 else -1)
  else Int.pow m n

theorem wholePower_eq (m : Int) (n : Nat) : wholePower m n = Int.pow m n := by
  change wholePower m n = m ^ n
  unfold wholePower
  split
  · simp_all
  · rename_i h
    split
    · rename_i hm
      rcases hm with rfl | rfl
      · rw [Int.zero_pow h]
      · rw [Int.one_pow]
    · split
      · rename_i hm
        subst hm
        have pow_two_mul (k : Nat) : (-1 : Int) ^ (2 * k) = 1 := by
          rw [Int.pow_mul, show (-1 : Int) ^ 2 = 1 from rfl, Int.one_pow]
        split
        · rename_i even
          have := pow_two_mul (n / 2)
          rwa [Nat.mul_div_cancel' (Nat.dvd_of_mod_eq_zero even), eq_comm] at this
        · rename_i odd
          have := pow_two_mul (n / 2)
          rw [show n = 2 * (n / 2) + 1 by omega, Int.pow_succ, this]
          rfl
      · rfl

/-- The power of two numbers as doubles. -/
def doublePower (x y : Plain) : Except PlainFault Plain := do
  let a ← x.double
  let b ← y.double
  match Number.power a b with
  | .value z => .ok (.float z)
  | .zeroToNegative => .error .zeroToNegative
  | .overflow =>
    let isReal := 0 ≤ a || (Number.toInt? b).isSome
    .error (if isReal then .powerTooLarge else .complexTooLarge)
  | .notReal => .error .notReal

/-- Whether a power is known to be too long to be written before it is computed: it has at
least `n` times the binary digits that follow the first one of the base. -/
def isPowerTooLong (m : Int) (n : Nat) : Bool :=
  4 * digitLimit ≤ m.natAbs.log2 * n

/-- The power of two numbers; an integer with an exponent that is not negative has an exact
one. -/
def pow (x y : Plain) : Except PlainFault Plain :=
  match x.integer?, y.integer? with
  | some m, some n =>
    if n < 0 then doublePower x y
    else if isPowerTooLong m n.toNat then .error .tooManyDigits
    else .ok (.int (wholePower m n.toNat))
  | _, _ => doublePower x y

/-- The power of two integers, reduced by a third. -/
def powMod (x y modulus : Plain) : Except PlainFault Plain :=
  match x.integer?, y.integer?, modulus.integer? with
  | some a, some n, some m =>
    ((Number.modularPower a n m).mapError .modular).map .int
  | _, _, _ => .error .modularDoubles

/-! ## Signs -/

/-- The number of opposite sign. -/
def neg (x : Plain) : Plain :=
  match x.integer? with
  | some n => .int (-n)
  | none => .float (-x.toDouble)

/-- The number itself; a truth value becomes an integer. -/
def pos (x : Plain) : Plain :=
  match x with
  | .truth b => .int (if b then 1 else 0)
  | x => x

/-- The magnitude of a number. -/
def abs (x : Plain) : Plain :=
  match x.integer? with
  | some n => .int n.natAbs
  | none => .float x.toDouble.abs

end UnitCalc.Script.Plain
