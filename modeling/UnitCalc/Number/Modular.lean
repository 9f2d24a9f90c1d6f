/-!
# Powers by a modulus

Powers of integers, reduced by a modulus. A negative exponent inverts the base first, which
has to be prime to the modulus. The result lies between zero and the modulus and has its
sign.
-/

namespace UnitCalc.Number

/-- Why a reduced power does not exist. -/
inductive ModularFault where
  | zeroModulus
  | notInvertible
deriving Repr, DecidableEq

/-- What is said of a reduced power that does not exist. -/
def ModularFault.message : ModularFault → String
  | .zeroModulus => "pow() 3rd argument cannot be 0"
  | .notInvertible => "base is not invertible for the given modulus"

/-- The greatest common divisor of `r` and `s`. Of each of them goes along the multiple of one
fixed number that it is, up to a modulus. -/
def commonDivisor (r s : Nat) (x y : Int) : Nat × Int :=
  if h : s = 0 then (r, x)
  else
    have : r % s < s := Nat.mod_lt _ (Nat.pos_of_ne_zero h)
    commonDivisor s (r % s) y (x - (r / s : Nat) * y)
termination_by s

theorem commonDivisor_fst (r s : Nat) (x y : Int) : (commonDivisor r s x y).1 = r.gcd s := by
  fun_induction commonDivisor r s x y with
  | case1 r x y => simp
  | case2 r s x y h _ ih => rw [ih, Nat.gcd_comm s, ← Nat.gcd_rec, Nat.gcd_comm]

/-- The inverse of a natural by a modulus. -/
def inverse? (a m : Nat) : Option Nat :=
  match commonDivisor (a % m) m 1 0 with
  | (1, x) => some (x.emod m).toNat
  | _ => none

/-- The remainder of `a ^ n` by `m`. -/
def powerRemainder (a n m : Nat) : Nat :=
  if n = 0 then 1 % m
  else if n % 2 = 0 then powerRemainder (a * a % m) (n / 2) m
  else a * powerRemainder (a * a % m) (n / 2) m % m
termination_by n

theorem square_pow_mod (a n m : Nat) :
    Nat.pow (a * a % m) n % m = Nat.pow a (2 * n) % m := by
  change (a * a % m) ^ n % m = a ^ (2 * n) % m
  rw [← Nat.pow_mod, ← Nat.pow_two, ← Nat.pow_mul]

theorem powerRemainder_eq (a n m : Nat) : powerRemainder a n m = Nat.pow a n % m := by
  fun_induction powerRemainder a n m with
  | case1 => simp
  | case2 a n h even ih =>
    rw [ih, square_pow_mod, Nat.mul_div_cancel' (Nat.dvd_of_mod_eq_zero even)]
  | case3 a n h odd ih =>
    rw [Nat.mul_mod, ih, Nat.mod_mod, ← Nat.mul_mod, Nat.mul_mod, square_pow_mod, ← Nat.mul_mod]
    change a * a ^ (2 * (n / 2)) % m = a ^ n % m
    rw [← Nat.pow_succ', show (2 * (n / 2)).succ = n by omega]

/-- The power of an integer, reduced by a modulus. -/
def modularPower (a n m : Int) : Except ModularFault Int :=
  let modulus := m.natAbs
  let signed (r : Nat) : Int := if m < 0 ∧ r ≠ 0 then r - modulus else r
  if m = 0 then .error .zeroModulus
  else if modulus = 1 then .ok 0
  else
    let base := (a.emod modulus).toNat
    if 0 ≤ n then .ok (signed (powerRemainder base n.natAbs modulus))
    else
      match inverse? base modulus with
      | some b => .ok (signed (powerRemainder b n.natAbs modulus))
      | none => .error .notInvertible

end UnitCalc.Number
