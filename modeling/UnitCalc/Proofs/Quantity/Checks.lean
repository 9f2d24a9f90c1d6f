import UnitCalc.Quantity.Arithmetic

/-!
# Which operations check dimensions

An operation ends with a fault of dimension only where it checks its operands, and the check
comes before everything else: a conversion, a test of values or the check of a result never
hides it, and none of them ends so itself. `Checked` says of a calculation which test of its
operands decides whether it does.
-/

namespace UnitCalc

variable {K : Type}

/-- A calculation that ends with a fault of dimension exactly if a test is not passed. -/
def Checked {α : Type} (passes : Bool) (x : Except (Fault K) α) : Prop :=
  (∃ cause, x = .error (.dimension cause)) ↔ passes = false

namespace Checked

variable {α β : Type} {passes : Bool} {x : Except (Fault K) α} {f : α → Except (Fault K) β}

theorem of_ok (a : α) : Checked true (.ok a : Except (Fault K) α) := by
  simp [Checked]

theorem of_domain (cause : DomainFault K) :
    Checked true (.error (.domain cause) : Except (Fault K) α) := by
  simp [Checked]

theorem of_breakdown (cause : Breakdown) :
    Checked true (.error (.breakdown cause) : Except (Fault K) α) := by
  simp [Checked]

theorem ite (cause : DimensionFault K) (h : Checked true x) :
    Checked passes (if passes then x else .error (.dimension cause)) := by
  cases passes with
  | true => simpa using h
  | false => simp [Checked]

/-- What is calculated behind a test does not change its outcome. -/
theorem bind (hx : Checked passes x) (hf : ∀ a, Checked true (f a)) :
    Checked passes (x >>= f) := by
  cases x with
  | ok a =>
    have hpasses : passes = true := by
      simpa [Checked] using hx
    rw [hpasses]
    exact hf a
  | error fault => simpa [Checked, bind, Except.bind] using hx

end Checked

variable [Scalar K]

namespace Quantity

variable (q r : Quantity K)

/-! ## Without a check -/

theorem finite_checked (x : K) (dim : Dimension K) (units : Context K) (operation : Operation) :
    Checked true (finite x dim units operation) := by
  unfold finite
  split
  · exact .of_ok _
  · exact .of_domain _

theorem factorOf_checked (units : Context K) (dim : Dimension K) :
    Checked true (factorOf units dim) := by
  unfold factorOf
  split
  · exact .of_ok _
  · exact .of_breakdown _

theorem divideBy_checked (x y : K) : Checked true (divideBy x y) := by
  unfold divideBy
  split
  · exact .of_breakdown _
  · exact .of_ok _

theorem productDim_checked (d d' : Dimension K) : Checked true (productDim d d') := by
  unfold productDim
  split
  · exact .of_ok _
  · exact .of_domain _

theorem quotientDim_checked (d d' : Dimension K) : Checked true (quotientDim d d') := by
  unfold quotientDim
  split
  · exact .of_ok _
  · exact .of_domain _

theorem toUnits_checked (units : Context K) : Checked true (q.toUnits units) := by
  unfold toUnits
  split
  · exact .of_ok _
  · refine (factorOf_checked _ _).bind fun source => ?_
    refine (factorOf_checked _ _).bind fun target => ?_
    exact (divideBy_checked _ _).bind fun value => finite_checked _ _ _ _

theorem scale_checked (x : K) : Checked true (q.scale x) :=
  finite_checked _ _ _ _

theorem mul_checked : Checked true (q.mul r) :=
  (toUnits_checked r _).bind fun _ =>
    (productDim_checked _ _).bind fun _ => finite_checked _ _ _ _

theorem div_checked : Checked true (q.div r) := by
  refine (toUnits_checked r _).bind fun r' => ?_
  split
  · exact .of_domain _
  · exact (quotientDim_checked _ _).bind fun _ => finite_checked _ _ _ _

theorem compoundMul_checked : Checked true (q.compoundMul r) :=
  (toUnits_checked q _).bind fun _ =>
    (toUnits_checked r _).bind fun _ =>
      (productDim_checked _ _).bind fun _ => finite_checked _ _ _ _

theorem compoundDiv_checked : Checked true (q.compoundDiv r) :=
  (toUnits_checked q _).bind fun _ =>
    (toUnits_checked r _).bind fun _ =>
      (divideBy_checked _ _).bind fun _ =>
        (quotientDim_checked _ _).bind fun _ => finite_checked _ _ _ _

theorem valuePower_checked (x n : K) : Checked true (valuePower x n) := by
  unfold valuePower
  split
  · exact .of_ok _
  · exact .of_domain _
  · exact .of_domain _
  · exact .of_domain _

theorem powScalar_checked (n : K) : Checked true (q.powScalar n) := by
  unfold powScalar
  split
  · exact .of_domain _
  · refine (valuePower_checked _ _).bind fun value => ?_
    split
    · exact finite_checked _ _ _ _
    · exact .of_domain _

/-! ## Behind a check -/

theorem checkSameDim_checked (operation : Comparison) :
    Checked (q.dim.eq r.dim) (checkSameDim operation q r) :=
  Checked.ite _ (.of_ok _)

theorem plainValue_checked (place : PlainPlace) : Checked q.dim.isZero (q.plainValue place) :=
  Checked.ite _ (.of_ok _)

theorem add_checked : Checked (q.dim.eq r.dim) (q.add r) :=
  (checkSameDim_checked q r _).bind fun _ =>
    (toUnits_checked r _).bind fun _ => finite_checked _ _ _ _

theorem sub_checked : Checked (q.dim.eq r.dim) (q.sub r) :=
  (checkSameDim_checked q r _).bind fun _ =>
    (toUnits_checked r _).bind fun _ => finite_checked _ _ _ _

theorem mod_checked : Checked (q.dim.eq r.dim) (q.mod r) := by
  refine (checkSameDim_checked q r _).bind fun _ => ?_
  refine (toUnits_checked r _).bind fun r' => ?_
  split
  · exact .of_domain _
  · split
    · exact finite_checked _ _ _ _
    · exact .of_breakdown _

theorem pow_checked (n : Quantity K) : Checked n.dim.isZero (q.pow n) :=
  Checked.ite _ (powScalar_checked q _)

end Quantity

end UnitCalc
