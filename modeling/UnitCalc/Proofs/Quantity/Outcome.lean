import UnitCalc.Quantity.Arithmetic

/-!
# What the operations on quantities can result in

Each operation has one lemma: what is known of its result, and that its faults are those of
arithmetic. Nothing is asked of the numbers. A result that has passed a check has a finite
value whatever the operands are, and its exponents are those that were computed from theirs.
-/

namespace UnitCalc

variable {K : Type}

/-! ## Outcomes -/

/-- The faults of a derivation tree that does not fit the grammar or the registry. -/
def Fault.OfTree : Fault K → Prop
  | .unknownUnit _ | .badNumeral _ => True
  | .breakdown (.unknownProduction _) | .breakdown (.arity _) | .breakdown .noReadings => True
  | _ => False

/-- What a calculation ends with: a good result, or a fault that is not one of trees. -/
def Outcome {α : Type} (good : α → Prop) : Except (Fault K) α → Prop
  | .ok a => good a
  | .error f => ¬ f.OfTree

namespace Outcome

variable {α β : Type} {good good' : α → Prop} {x : Except (Fault K) α}

theorem imp (h : Outcome good x) (hgood : ∀ a, good a → good' a) : Outcome good' x := by
  cases x with
  | ok a => exact hgood a h
  | error f => exact h

theorem bind {good' : β → Prop} {f : α → Except (Fault K) β} (h : Outcome good x)
    (hf : ∀ a, good a → Outcome good' (f a)) : Outcome good' (x >>= f) := by
  cases x with
  | ok a => exact hf a h
  | error f => exact h

end Outcome

namespace Quantity

variable [Scalar K]

/-! ## Conversion -/

/-- A quantity in a known context with a finite value, and with the dimension that was
computed for it. -/
structure Computed (dim? : Option (Dimension K)) (units : Context K) (q : Quantity K) :
    Prop where
  value : Scalar.isFinite q.value = true
  dim : dim? = some q.dim
  units : q.units = units

variable (q r : Quantity K)

theorem finite_outcome (x : K) (dim : Dimension K) (units : Context K) (operation : Operation) :
    Outcome (Computed (some dim) units) (finite x dim units operation) := by
  unfold finite
  split
  · rename_i hfinite
    exact ⟨hfinite, rfl, rfl⟩
  · exact id

theorem divideBy_outcome (x y : K) : Outcome (fun _ => True) (divideBy x y) := by
  unfold divideBy
  split
  · exact id
  · trivial

theorem factorOf_outcome (units : Context K) (dim : Dimension K) :
    Outcome (fun _ => True) (factorOf units dim) := by
  unfold factorOf
  split
  · trivial
  · exact id

/-- A conversion leaves a quantity as it is, or computes its value anew. -/
theorem toUnits_outcome (units : Context K) :
    Outcome (fun s => s.dim = q.dim ∧ (s = q ∨ s.Computed (some q.dim) units))
      (q.toUnits units) := by
  unfold toUnits
  split
  · exact ⟨rfl, .inl rfl⟩
  · refine (factorOf_outcome _ _).bind fun source _ => ?_
    refine (factorOf_outcome _ _).bind fun target _ => ?_
    refine (divideBy_outcome _ _).bind fun value _ => ?_
    refine (finite_outcome _ _ _ _).imp fun s hs => ?_
    exact ⟨(Option.some.inj hs.dim).symm, .inr hs⟩

/-! ## Sums -/

theorem checkSameDim_outcome (operation : Comparison) :
    Outcome (fun _ => q.dim.eq r.dim = true) (checkSameDim operation q r) := by
  unfold checkSameDim
  split
  · assumption
  · exact id

theorem add_outcome : Outcome (Computed (some q.dim) q.units) (q.add r) := by
  refine (checkSameDim_outcome q r _).bind fun _ _ => ?_
  exact (toUnits_outcome r _).bind fun _ _ => finite_outcome _ _ _ _

theorem sub_outcome : Outcome (Computed (some q.dim) q.units) (q.sub r) := by
  refine (checkSameDim_outcome q r _).bind fun _ _ => ?_
  exact (toUnits_outcome r _).bind fun _ _ => finite_outcome _ _ _ _

theorem mod_outcome : Outcome (Computed (some q.dim) q.units) (q.mod r) := by
  refine (checkSameDim_outcome q r _).bind fun _ _ => ?_
  refine (toUnits_outcome r _).bind fun r' _ => ?_
  split
  · exact id
  · split
    · exact finite_outcome _ _ _ _
    · exact id

/-! ## Products -/

theorem scale_outcome (x : K) : Outcome (Computed (some q.dim) q.units) (q.scale x) :=
  finite_outcome _ _ _ _

theorem productDim_outcome (d d' : Dimension K) :
    Outcome (fun dim => d.mul? d' = some dim) (productDim d d') := by
  unfold productDim
  split
  · assumption
  · exact id

theorem quotientDim_outcome (d d' : Dimension K) :
    Outcome (fun dim => d.div? d' = some dim) (quotientDim d d') := by
  unfold quotientDim
  split
  · assumption
  · exact id

theorem mul_outcome : Outcome (Computed (q.dim.mul? r.dim) q.units) (q.mul r) := by
  refine (toUnits_outcome r _).bind fun r' hr' => ?_
  refine (productDim_outcome _ _).bind fun dim hdim => ?_
  rw [← hr'.1, hdim]
  exact finite_outcome _ _ _ _

theorem div_outcome : Outcome (Computed (q.dim.div? r.dim) q.units) (q.div r) := by
  refine (toUnits_outcome r _).bind fun r' hr' => ?_
  split
  · exact id
  · refine (quotientDim_outcome _ _).bind fun dim hdim => ?_
    rw [← hr'.1, hdim]
    exact finite_outcome _ _ _ _

theorem compoundMul_outcome : Outcome
    (Computed (q.dim.mul? r.dim) (q.units.merge r.units q.dim r.dim)) (q.compoundMul r) := by
  refine (toUnits_outcome q _).bind fun q' hq' => ?_
  refine (toUnits_outcome r _).bind fun r' hr' => ?_
  refine (productDim_outcome _ _).bind fun dim hdim => ?_
  rw [hq'.1, hr'.1] at hdim
  rw [hdim]
  exact finite_outcome _ _ _ _

theorem compoundDiv_outcome : Outcome
    (Computed (q.dim.div? r.dim) (q.units.merge r.units q.dim r.dim)) (q.compoundDiv r) := by
  refine (toUnits_outcome q _).bind fun q' hq' => ?_
  refine (toUnits_outcome r _).bind fun r' hr' => ?_
  refine (divideBy_outcome _ _).bind fun value _ => ?_
  refine (quotientDim_outcome _ _).bind fun dim hdim => ?_
  rw [hq'.1, hr'.1] at hdim
  rw [hdim]
  exact finite_outcome _ _ _ _

/-! ## Powers -/

theorem valuePower_outcome (x n : K) : Outcome (fun _ => True) (valuePower x n) := by
  unfold valuePower
  split
  · trivial
  · exact id
  · exact id
  · exact id

theorem powScalar_outcome (n : K) :
    Outcome (Computed (q.dim.pow? n) q.units) (q.powScalar n) := by
  unfold powScalar
  split
  · exact id
  · refine (valuePower_outcome _ _).bind fun value _ => ?_
    cases hdim : q.dim.pow? n with
    | some dim => exact finite_outcome _ _ _ _
    | none => exact id

theorem pow_outcome : Outcome (Computed (q.dim.pow? r.value) q.units) (q.pow r) := by
  unfold pow
  split
  · exact powScalar_outcome q r.value
  · exact id

theorem plainValue_outcome (place : PlainPlace) :
    Outcome (· = q.value) (q.plainValue place) := by
  unfold plainValue
  split
  · rfl
  · exact id

end Quantity

end UnitCalc
