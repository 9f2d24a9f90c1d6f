import Mathlib.Algebra.Order.Field.Rat
import Mathlib.Data.Rat.Cast.Order
import Mathlib.Tactic.Ring
import UnitCalc.Expr.Evaluator

/-!
# Exact scalars

The rationals in place of doubles. Nothing is rounded and nothing is too large. Logarithms,
the gamma function and powers with a fractional exponent have no rational values in general,
so they are taken as given: whatever is proved about exact scalars holds for all of them.
-/

namespace UnitCalc.Exact

/-- What exact arithmetic takes as given. -/
class Given where
  e : ℚ
  pi : ℚ
  log? : ℚ → Option ℚ
  ln? : ℚ → Option ℚ
  gamma? : ℚ → Option ℚ
  /-- Powers with an exponent that is not whole. -/
  root : ℚ → ℚ → Power ℚ

/-- Exact arithmetic without logarithms, factorials and roots. -/
@[reducible] def noFunctions : Given where
  e := 3
  pi := 3
  log? _ := none
  ln? _ := none
  gamma? _ := none
  root _ _ := .notReal

/-- The integer next to a number on the side of zero. -/
def truncate (x : ℚ) : ℤ := x.num.tdiv x.den

/-- The remainder of a division that is truncated toward zero. -/
def remainder (x y : ℚ) : ℚ := x - y * truncate (x / y)

theorem isInt_intCast (n : ℤ) : (n : ℚ).isInt = true := by
  simp [Rat.isInt]

theorem eq_intCast_of_isInt {x : ℚ} (h : x.isInt = true) : x = (x.num : ℚ) := by
  rw [Rat.isInt, beq_iff_eq] at h
  exact (Rat.den_eq_one_iff x).mp h |>.symm

/-- Remainders follow a change of the unit. -/
theorem remainder_mul_right (x y : ℚ) {c : ℚ} (hc : c ≠ 0) :
    remainder (x * c) (y * c) = remainder x y * c := by
  rw [remainder, remainder, mul_div_mul_right x y hc]
  ring

variable [Given]

/-- One number raised to the power of another. -/
def power (x n : ℚ) : Power ℚ :=
  if n.isInt then
    if x = 0 ∧ n.num < 0 then .zeroToNegative else .value (x ^ n.num)
  else Given.root x n

instance : Scalar ℚ where
  ofInt n := n
  ofDecimal digits exponent := digits * 10 ^ exponent
  e := Given.e
  pi := Given.pi
  neg x := -x
  abs x := |x|
  add := (· + ·)
  sub := (· - ·)
  mul := (· * ·)
  div := (· / ·)
  eq x y := decide (x = y)
  lt x y := decide (x < y)
  le x y := decide (x ≤ y)
  isFinite _ := true
  isInfinite _ := false
  isNegative x := decide (x < 0)
  pow := power
  remainder? x y := if y = 0 then none else some (remainder x y)
  log? := Given.log?
  ln? := Given.ln?
  gamma? := Given.gamma?
  toInt? x := if x.isInt then some x.num else none
  fullText x := s!"{x.num}/{x.den}"
  briefText x := s!"{x.num}/{x.den}"

/-! ## Operations -/

section Operations

variable {x y : ℚ}

@[simp] theorem ofInt_eq (n : ℤ) : (Scalar.ofInt n : ℚ) = n := rfl

@[simp] theorem zero_eq : (Scalar.zero : ℚ) = 0 := Int.cast_zero

@[simp] theorem one_eq : (Scalar.one : ℚ) = 1 := Int.cast_one

theorem scalar_one_pos : (0 : ℚ) < Scalar.one := one_eq ▸ one_pos

@[simp] theorem neg_eq : Scalar.neg x = -x := rfl

@[simp] theorem abs_eq : Scalar.abs x = |x| := rfl

@[simp] theorem add_eq : Scalar.add x y = x + y := rfl

@[simp] theorem sub_eq : Scalar.sub x y = x - y := rfl

@[simp] theorem mul_eq : Scalar.mul x y = x * y := rfl

@[simp] theorem div_eq : Scalar.div x y = x / y := rfl

@[simp] theorem eq_iff : Scalar.eq x y = true ↔ x = y := decide_eq_true_iff

@[simp] theorem lt_iff : Scalar.lt x y = true ↔ x < y := decide_eq_true_iff

@[simp] theorem le_iff : Scalar.le x y = true ↔ x ≤ y := decide_eq_true_iff

@[simp] theorem isZero_iff : Scalar.isZero x = true ↔ x = 0 := by
  rw [Scalar.isZero, eq_iff, zero_eq]

@[simp] theorem isNegative_iff : Scalar.isNegative x = true ↔ x < 0 := decide_eq_true_iff

@[simp] theorem isFinite_eq : Scalar.isFinite x = true := rfl

/-- A power with a whole exponent exists unless the base is zero and the exponent negative. -/
theorem pow_intCast (x : ℚ) (n : ℤ) :
    Scalar.pow x (n : ℚ) = if x = 0 ∧ n < 0 then .zeroToNegative else .value (x ^ n) := by
  show power x n = _
  rw [power, if_pos (isInt_intCast n), Rat.num_intCast]

theorem pow_intCast_of_pos (hx : 0 < x) (n : ℤ) : Scalar.pow x (n : ℚ) = .value (x ^ n) := by
  rw [pow_intCast, if_neg fun h => hx.ne' h.1]

end Operations

end UnitCalc.Exact
