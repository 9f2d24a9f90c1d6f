import UnitCalc.Fault

/-!
# Arithmetic of quantities

Operations follow their left operand: the right one is first expressed in the context of the
left one, and the result keeps that context. Only `compound`, which builds units out of
units, merges the two contexts. Conversion between contexts keeps the amount. A result that
is not finite is a fault, never a quantity.
-/

namespace UnitCalc

namespace Quantity

variable {K : Type} [Scalar K]

/-! ## Checked results -/

/-- The result of an operation, if its value is finite. -/
def finite (value : K) (dim : Dimension K) (units : Context K) (operation : Operation) :
    Except (Fault K) (Quantity K) :=
  if Scalar.isFinite value then .ok ⟨value, dim, units⟩
  else .error (.domain (.notFinite operation value))

theorem finite_eq_ok_iff {x : K} {dim : Dimension K} {units : Context K} {operation : Operation}
    {q : Quantity K} :
    finite x dim units operation = .ok q ↔
      Scalar.isFinite x = true ∧ ⟨x, dim, units⟩ = q := by
  simp only [finite]
  split <;> simp_all

/-- The dimension of a product of quantities. -/
def productDim (d d' : Dimension K) : Except (Fault K) (Dimension K) :=
  match d.mul? d' with
  | some r => .ok r
  | none => .error (.domain (.productTooLarge d d'))

/-- The dimension of a quotient of quantities. -/
def quotientDim (d d' : Dimension K) : Except (Fault K) (Dimension K) :=
  match d.div? d' with
  | some r => .ok r
  | none => .error (.domain (.quotientTooLarge d d'))

/-- Passes on two operands of one dimension. -/
def checkSameDim (operation : Comparison) (q r : Quantity K) : Except (Fault K) PUnit :=
  if q.dim.eq r.dim then .ok ⟨⟩ else .error (.dimension (.mismatch operation q r))

/-- The value of a plain number in a place for one. -/
def plainValue (place : PlainPlace) (q : Quantity K) : Except (Fault K) K :=
  if q.isDimensionless then .ok q.value else .error (.dimension (.operand place q))

/-- The value of a plain number. -/
def toScalar (q : Quantity K) : Except (Fault K) K :=
  if q.isDimensionless then .ok q.value else .error (.dimension (.notPlain q))

/-! ## Conversion -/

/-- The SI amount of one `context ^ dim`. -/
def factorOf (units : Context K) (dim : Dimension K) : Except (Fault K) K :=
  match units.conversionFactor? dim with
  | some f => .ok f
  | none => .error (.breakdown .factorTooLarge)

/-- Divides by what comes of a conversion, which can have become zero. -/
def divideBy (x y : K) : Except (Fault K) K :=
  if Scalar.isZero y then .error (.breakdown .factorZero) else .ok (Scalar.div x y)

/-- The SI amount of one unit of the shape of a quantity. -/
def conversionFactor (q : Quantity K) : Except (Fault K) K :=
  factorOf q.units q.dim

/-- The same amount in another context. -/
def toUnits (q : Quantity K) (units : Context K) : Except (Fault K) (Quantity K) :=
  if units.eq q.units then .ok q
  else do
    let source ← q.conversionFactor
    let target ← factorOf units q.dim
    let value ← divideBy (Scalar.mul q.value source) target
    finite value q.dim units .convert

theorem toUnits_of_eq {q : Quantity K} {units : Context K} (h : units.eq q.units = true) :
    q.toUnits units = .ok q := by
  simp [toUnits, h]

/-- The same amount in SI units. -/
def toSI (q : Quantity K) : Except (Fault K) (Quantity K) :=
  q.toUnits .si

/-! ## Sums -/

/-- The sum of two quantities of one dimension. -/
def add (q r : Quantity K) : Except (Fault K) (Quantity K) := do
  checkSameDim .add q r
  let r ← r.toUnits q.units
  finite (Scalar.add q.value r.value) q.dim q.units .add

/-- The difference of two quantities of one dimension. -/
def sub (q r : Quantity K) : Except (Fault K) (Quantity K) := do
  checkSameDim .subtract q r
  let r ← r.toUnits q.units
  finite (Scalar.sub q.value r.value) q.dim q.units .subtract

/-- The quantity of opposite sign. -/
def neg (q : Quantity K) : Quantity K :=
  { q with value := Scalar.neg q.value }

/-- The magnitude of a quantity. -/
def abs (q : Quantity K) : Quantity K :=
  { q with value := Scalar.abs q.value }

/-! ## Products -/

/-- A quantity times a number. -/
def scale (q : Quantity K) (x : K) : Except (Fault K) (Quantity K) :=
  finite (Scalar.mul q.value x) q.dim q.units .multiply

/-- The product of two quantities. -/
def mul (q r : Quantity K) : Except (Fault K) (Quantity K) := do
  let r ← r.toUnits q.units
  let dim ← productDim q.dim r.dim
  finite (Scalar.mul q.value r.value) dim q.units .multiply

/-- The quotient of two quantities. -/
def div (q r : Quantity K) : Except (Fault K) (Quantity K) := do
  let r ← r.toUnits q.units
  if Scalar.isZero r.value then .error (.domain .divisionByZero)
  else do
    let dim ← quotientDim q.dim r.dim
    finite (Scalar.div q.value r.value) dim q.units .divide

/-- The remainder of a quotient that is truncated toward zero. -/
def mod (q r : Quantity K) : Except (Fault K) (Quantity K) := do
  checkSameDim .modulo q r
  let r ← r.toUnits q.units
  if Scalar.isZero r.value then .error (.domain .moduloByZero)
  else
    match Scalar.remainder? q.value r.value with
    | some x => finite x q.dim q.units .modulo
    | none => .error (.breakdown .remainderUndefined)

/-! ## Powers -/

/-- The power of a value. -/
def valuePower (x n : K) : Except (Fault K) K :=
  match Scalar.pow x n with
  | .value y => .ok y
  | .zeroToNegative => .error (.domain .zeroToNegative)
  | .overflow => .error (.domain (.powerTooLarge x n))
  | .notReal => .error (.domain (.noRealPower x n))

/-- A quantity raised to the power of a number. -/
def powScalar (q : Quantity K) (n : K) : Except (Fault K) (Quantity K) := do
  if !Scalar.isFinite n then .error (.domain (.exponentNotFinite n))
  else do
    let value ← valuePower q.value n
    match q.dim.pow? n with
    | some dim => finite value dim q.units .power
    | none => .error (.domain (.dimensionPowerTooLarge q.dim n))

/-- A quantity raised to the power of a plain number. -/
def pow (q n : Quantity K) : Except (Fault K) (Quantity K) :=
  if n.isDimensionless then q.powScalar n.value else .error (.dimension (.exponent q n))

/-! ## Compound units -/

/-- The product of two units in the merged context, where `km` and `h` give `1 km·h`. -/
def compoundMul (q r : Quantity K) : Except (Fault K) (Quantity K) := do
  let units := q.units.merge r.units q.dim r.dim
  let q ← q.toUnits units
  let r ← r.toUnits units
  let dim ← productDim q.dim r.dim
  finite (Scalar.mul q.value r.value) dim units .multiply

/-- The quotient of two units in the merged context, where `km` and `h` give `1 km/h`. -/
def compoundDiv (q r : Quantity K) : Except (Fault K) (Quantity K) := do
  let units := q.units.merge r.units q.dim r.dim
  let q ← q.toUnits units
  let r ← r.toUnits units
  let value ← divideBy q.value r.value
  let dim ← quotientDim q.dim r.dim
  finite value dim units .divide

end Quantity

/-- One of a unit. A base unit gives one in a context that chooses it, so that `km` is shown
as `1 km`; a derived unit gives its factor in SI units. -/
def Unit.quantity {K : Type} [Scalar K] (u : Unit K) : Quantity K :=
  match u.axis? with
  | some axis => ⟨Scalar.one, u.dim, PerAxis.set Context.si u axis⟩
  | none => ⟨u.factor, u.dim, .si⟩

end UnitCalc
