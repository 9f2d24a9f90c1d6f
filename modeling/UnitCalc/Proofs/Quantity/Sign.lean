import UnitCalc.Proofs.Alike
import UnitCalc.Quantity.Arithmetic

/-!
# Quantities of opposite sign

An operation on a quantity with a minus ends like the operation without it: the result has a
minus, too, or there is a fault of the same kind. So it is for a conversion, and for a product,
quotient or remainder with the minus on its left operand. A difference is the sum with a minus
on the right operand. This rests on a few laws of numbers.
-/

namespace UnitCalc

variable {K : Type} [Scalar K]

/-! ## Laws of signs -/

/-- What a minus does to numbers, and to those that decimals stand for. -/
structure Scalar.SignLaws (K : Type) [Scalar K] : Prop where
  isFinite_neg : ∀ x : K, isFinite (neg x) = isFinite x
  neg_mul : ∀ x y : K, mul (neg x) y = neg (mul x y)
  mul_neg : ∀ x y : K, mul x (neg y) = neg (mul x y)
  neg_div : ∀ x y : K, div (neg x) y = neg (div x y)
  add_neg : ∀ x y : K, add x (neg y) = sub x y
  remainder_neg : ∀ x y : K, remainder? (neg x) y = (remainder? x y).map neg
  isNegative_ofDecimal : ∀ digits exponent, isNegative (ofDecimal digits exponent : K) = false
  isNegative_neg : ∀ digits exponent, isNegative (neg (ofDecimal digits exponent) : K) = true
  abs_ofDecimal : ∀ digits exponent,
    abs (ofDecimal digits exponent : K) = ofDecimal digits exponent
  abs_neg : ∀ digits exponent,
    abs (neg (ofDecimal digits exponent) : K) = ofDecimal digits exponent

namespace Scalar.SignLaws

variable (laws : Scalar.SignLaws K) (negative : Bool)

include laws

/-! The laws for either sign. -/

theorem isFinite_withSign (x : K) : isFinite (withSign negative x) = isFinite x := by
  cases negative with
  | false => rfl
  | true => exact laws.isFinite_neg x

theorem withSign_mul (x y : K) : mul (withSign negative x) y = withSign negative (mul x y) := by
  cases negative with
  | false => rfl
  | true => exact laws.neg_mul x y

theorem mul_withSign (x y : K) : mul x (withSign negative y) = withSign negative (mul x y) := by
  cases negative with
  | false => rfl
  | true => exact laws.mul_neg x y

theorem withSign_div (x y : K) : div (withSign negative x) y = withSign negative (div x y) := by
  cases negative with
  | false => rfl
  | true => exact laws.neg_div x y

theorem remainder_withSign (x y : K) :
    remainder? (withSign negative x) y = (remainder? x y).map (withSign negative) := by
  cases negative with
  | false => exact Option.map_id'.symm
  | true => exact laws.remainder_neg x y

end Scalar.SignLaws

namespace Quantity

/-- A quantity, with a minus if `negative` holds. -/
def withSign (negative : Bool) (q : Quantity K) : Quantity K :=
  { q with value := Scalar.withSign negative q.value }

@[simp] theorem value_withSign (negative : Bool) (q : Quantity K) :
    (q.withSign negative).value = Scalar.withSign negative q.value := rfl

/-- The second quantity is the first one, with a minus if `negative` holds. -/
def IsSigned (negative : Bool) (q r : Quantity K) : Prop := r = q.withSign negative

/-- Whether two quantities have one dimension does not depend on their signs. -/
theorem checkSameDim_alike (operation operation' : Comparison) (q r : Quantity K)
    (negative negative' : Bool) :
    Alike SameKind Eq (checkSameDim operation q r)
      (checkSameDim operation' (q.withSign negative) (r.withSign negative')) := by
  unfold checkSameDim
  show Alike _ _ (if q.dim.eq r.dim then _ else _) (if q.dim.eq r.dim then _ else _)
  split
  · exact rfl
  · exact rfl

section Laws

variable (laws : Scalar.SignLaws K) (negative : Bool)

include laws

theorem finite_isSigned (x : K) (dim : Dimension K) (units : Context K) (operation : Operation) :
    Alike SameKind (IsSigned negative) (finite x dim units operation)
      (finite (Scalar.withSign negative x) dim units operation) := by
  unfold finite
  rw [laws.isFinite_withSign]
  split
  · exact rfl
  · exact rfl

theorem divideBy_isSigned (x y : K) :
    Alike SameKind (fun z w => w = Scalar.withSign negative z) (divideBy x y)
      (divideBy (Scalar.withSign negative x) y) := by
  unfold divideBy
  split
  · exact rfl
  · exact laws.withSign_div negative x y

theorem toUnits_isSigned (q : Quantity K) (units : Context K) :
    Alike SameKind (IsSigned negative) (q.toUnits units) ((q.withSign negative).toUnits units) := by
  unfold toUnits
  show Alike _ _ (if units.eq q.units then _ else _) (if units.eq q.units then _ else _)
  split
  · exact rfl
  · refine Alike.bind_same SameKind.refl _ fun source => ?_
    refine Alike.bind_same SameKind.refl _ fun target => ?_
    have hdivide := divideBy_isSigned laws negative (Scalar.mul q.value source) target
    rw [← laws.withSign_mul] at hdivide
    refine hdivide.bind ?_
    rintro value _ rfl
    exact finite_isSigned laws negative value _ _ _

/-- A number of some units, where the number has the sign. -/
theorem scale_isSigned (q : Quantity K) (x : K) :
    Alike SameKind (IsSigned negative) (q.scale x)
      (q.scale (Scalar.withSign negative x)) := by
  unfold scale
  rw [laws.mul_withSign]
  exact finite_isSigned laws negative _ _ _ _

theorem mul_isSigned (q r : Quantity K) :
    Alike SameKind (IsSigned negative) (q.mul r) ((q.withSign negative).mul r) := by
  refine Alike.bind_same SameKind.refl (r.toUnits q.units) fun r => ?_
  refine Alike.bind_same SameKind.refl (productDim q.dim r.dim) fun dim => ?_
  rw [value_withSign, laws.withSign_mul]
  exact finite_isSigned laws negative _ _ _ _

theorem div_isSigned (q r : Quantity K) :
    Alike SameKind (IsSigned negative) (q.div r) ((q.withSign negative).div r) := by
  refine Alike.bind_same SameKind.refl (r.toUnits q.units) fun r => ?_
  split
  · exact rfl
  · refine Alike.bind_same SameKind.refl (quotientDim q.dim r.dim) fun dim => ?_
    rw [value_withSign, laws.withSign_div]
    exact finite_isSigned laws negative _ _ _ _

theorem mod_isSigned (q r : Quantity K) :
    Alike SameKind (IsSigned negative) (q.mod r) ((q.withSign negative).mod r) := by
  refine (checkSameDim_alike .modulo .modulo q r negative false).bind fun _ _ _ => ?_
  refine Alike.bind_same SameKind.refl (r.toUnits q.units) fun r => ?_
  split
  · exact rfl
  · rw [value_withSign, laws.remainder_withSign]
    cases Scalar.remainder? q.value r.value with
    | none => exact rfl
    | some x => exact finite_isSigned laws negative x _ _ _

/-- A difference is the sum with a minus on the right operand. -/
theorem sub_alike_add (q r : Quantity K) : Alike SameKind Eq (q.sub r) (q.add r.neg) := by
  refine (checkSameDim_alike .subtract .add q r false true).bind fun _ _ _ => ?_
  refine (toUnits_isSigned laws true r q.units).bind ?_
  rintro r _ rfl
  show Alike _ _ _ (finite (Scalar.add q.value (Scalar.neg r.value)) _ _ _)
  rw [laws.add_neg]
  unfold finite
  split
  · exact rfl
  · exact rfl

end Laws

end Quantity

end UnitCalc
