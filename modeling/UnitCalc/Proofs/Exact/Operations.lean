import UnitCalc.Proofs.Evaluator.Guarded
import UnitCalc.Proofs.Exact.Conversion
import UnitCalc.Proofs.Exact.Reference

/-!
# Operations on quantities do what they do to amounts

Every operation on quantities, whatever the contexts of its operands, has the result of the
operation on the amounts that they express, or fails with a fault of the same kind. The
one fact behind all of them is that a conversion keeps the amount.
-/

namespace UnitCalc.Exact

open UnitCalc.Expr

/-! ## Simulation -/

/-- The kind of a fault of dimension or domain. -/
def kind? : Fault ℚ → Option Failure
  | .dimension _ => some .dimension
  | .domain _ => some .domain
  | _ => none

/-- Two calculations with related results, or with faults of one kind. -/
def Simulates {α β : Type} (related : α → β → Prop) :
    Except (Fault ℚ) α → Except Failure β → Prop
  | .ok x, .ok y => related x y
  | .error f, .error failure => kind? f = some failure
  | _, _ => False

namespace Simulates

variable {α β α' β' : Type} {related related₁ : α → β → Prop} {related' : α' → β' → Prop}
  {x : Except (Fault ℚ) α} {y : Except Failure β} {f : α → Except (Fault ℚ) α'}
  {g : β → Except Failure β'}

theorem cases (h : Simulates related x y) :
    (∃ a b, x = .ok a ∧ y = .ok b ∧ related a b) ∨
      ∃ f failure, x = .error f ∧ y = .error failure ∧ kind? f = some failure := by
  match x, y, h with
  | .ok a, .ok b, h => exact .inl ⟨a, b, rfl, rfl, h⟩
  | .error f, .error failure, h => exact .inr ⟨f, failure, rfl, rfl, h⟩

theorem bind_of_ok (h : Simulates related x y)
    (hf : ∀ a b, y = .ok b → related a b → Simulates related' (f a) (g b)) :
    Simulates related' (x >>= f) (y >>= g) := by
  match x, y, h with
  | .ok a, .ok b, h => exact hf a b rfl h
  | .error _, .error _, h => exact h

theorem bind (h : Simulates related x y)
    (hf : ∀ a b, related a b → Simulates related' (f a) (g b)) :
    Simulates related' (x >>= f) (y >>= g) :=
  h.bind_of_ok fun a b _ => hf a b

theorem imp (h : Simulates related x y) (himp : ∀ a b, related a b → related₁ a b) :
    Simulates related₁ x y := by
  match x, y, h with
  | .ok a, .ok b, h => exact himp a b h
  | .error _, .error _, h => exact h

end Simulates

variable [Given]

/-- A context made of units that a calculation can meet. -/
def Within (r : Registry ℚ) (c : Context ℚ) : Prop := ∀ axis, c.get axis ∈ known r

/-- A quantity with whole exponents whose value and context stand for an amount. -/
structure Expresses (r : Registry ℚ) (q : Quantity ℚ) (a : Amount) : Prop where
  within : Within r q.units
  amount : ∃ e, q.dim = wholeDim e ∧ a = ⟨q.value * siFactor q.units e, wholeDim e⟩

/-- A quantity with the dimension of an amount and its SI magnitude. -/
def Measures (q : Quantity ℚ) (a : Amount) : Prop :=
  q.dim = a.dim ∧ ∃ f, q.units.conversionFactor? q.dim = some f ∧ q.value * f = a.magnitude

variable {r : Registry ℚ} {q s : Quantity ℚ} {a b : Amount}

section Conversion

variable {c : Context ℚ}

theorem Coherent.uniform (hr : Coherent r) : Uniform (known r) := ⟨hr.positive, hr.same⟩

theorem Within.positive (hr : Coherent r) (hc : Within r c) : Positive c :=
  MadeOf.positive hr.uniform hc

theorem within_si : Within r .si := by
  intro axis
  refine List.mem_append_left _ ?_
  cases axis <;> simp [siUnits, Context.si, PerAxis.get]

theorem Within.set (hc : Within r c) {u : Unit ℚ} (hu : u ∈ known r) (axis : Axis) :
    Within r (PerAxis.set c u axis) := by
  intro axis'
  rw [PerAxis.get_set]
  split
  · exact hu
  · exact hc axis'

theorem Within.merge {c' : Context ℚ} (hc : Within r c) (hc' : Within r c')
    (d d' : Dimension ℚ) : Within r (c.merge c' d d') := by
  intro axis
  rw [Context.get_merge, Context.pick]
  split
  · exact hc' axis
  · exact hc axis

theorem Expresses.measures (hr : Coherent r) (hq : Expresses r q a) : Measures q a := by
  obtain ⟨hc, e, hdim, rfl⟩ := hq
  refine ⟨hdim, siFactor q.units e, ?_, rfl⟩
  rw [hdim]
  exact conversionFactor?_wholeDim (hc.positive hr) e

/-- A conversion keeps the amount. Where the contexts compare equal nothing is converted, and
then the result keeps its context, too. -/
theorem toUnits_expresses (hr : Coherent r) (hq : Expresses r q a) (hc : Within r c) :
    ∃ q', q.toUnits c = .ok q' ∧ Expresses r q' a ∧
      ∀ e, siFactor q'.units e = siFactor c e := by
  obtain ⟨hwithin, e, hdim, rfl⟩ := hq
  have hq : Convertible (known r) q := ⟨hdim ▸ hasPowers_wholeDim e, hwithin⟩
  obtain ⟨q', hq', hconvertible, hmatches⟩ := toUnits_matches hr.uniform hq hc
  have hdim' : q'.dim = wholeDim e := hmatches.dim.trans hdim
  have hamount := siAmount_toUnits hr.uniform hq hc hq'
  refine ⟨q', hq', ⟨hconvertible.made, e, hdim', ?_⟩, ?_⟩
  · rw [siAmount, siAmount, hdim, hdim', shapeFactor_wholeDim (hq.made.positive hr.uniform),
      shapeFactor_wholeDim (hconvertible.made.positive hr.uniform)] at hamount
    rw [hamount]
  · exact siFactor_congr (factor_eq hr.uniform hconvertible.made hc hmatches.units)

/-- What follows a conversion can rely on a quantity with the same amount. -/
theorem toUnits_bind (hr : Coherent r) (hq : Expresses r q a) (hc : Within r c)
    {f : Quantity ℚ → Except (Fault ℚ) (Quantity ℚ)} {y : Except Failure Amount}
    (hf : ∀ q', Expresses r q' a → (∀ e, siFactor q'.units e = siFactor c e) →
      Simulates (Expresses r) (f q') y) : Simulates (Expresses r) (q.toUnits c >>= f) y := by
  obtain ⟨q', hq', hexpresses, hfactor⟩ := toUnits_expresses hr hq hc
  rw [hq']
  exact hf q' hexpresses hfactor

end Conversion

/-! ## Plain numbers -/

theorem expresses_ofValue (x : ℚ) : Expresses r (.ofValue x) (.plain x) := by
  refine ⟨within_si, ⟨0, 0, 0⟩, rfl, ?_⟩
  rw [siFactor_zero, mul_one, wholeDim_zero]
  rfl

theorem isDimensionless_iff (hq : Expresses r q a) :
    q.isDimensionless = true ↔ a.dim = noDim := by
  obtain ⟨_, e, hdim, rfl⟩ := hq
  rw [Quantity.isDimensionless, dim_isZero_iff, hdim]
  rfl

theorem value_eq_of_noDim (hq : Expresses r q a) (h : a.dim = noDim) :
    q.value = a.magnitude := by
  obtain ⟨_, e, _, rfl⟩ := hq
  have he : e = ⟨0, 0, 0⟩ := wholeDim_inj.mp (h.trans wholeDim_zero.symm)
  rw [he, siFactor_zero, mul_one]

theorem plainValue_simulates (place : PlainPlace) (hq : Expresses r q a) :
    Simulates Eq (q.plainValue place) a.number := by
  unfold Quantity.plainValue Amount.number
  by_cases h : a.dim = noDim
  · rw [if_pos ((isDimensionless_iff hq).mpr h), if_pos h]
    exact value_eq_of_noDim hq h
  · rw [if_neg (fun hq' => h ((isDimensionless_iff hq).mp hq')), if_neg h]
    rfl

/-- The sign of a value is that of its amount. -/
theorem value_neg_iff (hr : Coherent r) (hq : Expresses r q a) :
    q.value < 0 ↔ a.magnitude < 0 := by
  obtain ⟨hc, e, _, rfl⟩ := hq
  have hpos := siFactor_pos (hc.positive hr) e
  exact ⟨fun h => mul_neg_of_neg_of_pos h hpos, fun h => neg_of_mul_neg_left h hpos.le⟩

theorem value_eq_zero_iff (hr : Coherent r) (hq : Expresses r q a) :
    q.value = 0 ↔ a.magnitude = 0 := by
  obtain ⟨hc, e, _, rfl⟩ := hq
  exact (mul_eq_zero_iff_right (siFactor_pos (hc.positive hr) e).ne').symm

theorem isZero_value_iff (hr : Coherent r) (hq : Expresses r q a) :
    Scalar.isZero q.value = true ↔ a.magnitude = 0 := by
  rw [isZero_iff, value_eq_zero_iff hr hq]

/-! ## Sums -/

theorem dim_eq_iff_of_expresses (hq : Expresses r q a) (hs : Expresses r s b) :
    q.dim.eq s.dim = true ↔ a.dim = b.dim := by
  obtain ⟨_, e, hdim, rfl⟩ := hq
  obtain ⟨_, e', hdim', rfl⟩ := hs
  rw [dim_eq_iff, hdim, hdim']

theorem checkSameDim_simulates {operation : Comparison} (hq : Expresses r q a)
    (hs : Expresses r s b) {f : PUnit → Except (Fault ℚ) (Quantity ℚ)}
    {y : Except Failure Amount}
    (hf : a.dim = b.dim → Simulates (Expresses r) (f ⟨⟩) y) :
    Simulates (Expresses r) (Quantity.checkSameDim operation q s >>= f)
      (if a.dim = b.dim then y else .error .dimension) := by
  unfold Quantity.checkSameDim
  by_cases h : a.dim = b.dim
  · rw [if_pos ((dim_eq_iff_of_expresses hq hs).mpr h), if_pos h]
    exact hf h
  · rw [if_neg (fun h' => h ((dim_eq_iff_of_expresses hq hs).mp h')), if_neg h]
    rfl

/-- Amounts of one dimension, with the value of the right one in the context of the left. -/
theorem magnitudes_of_sameDim (hq : Expresses r q a) (hs : Expresses r s b)
    (hdim : a.dim = b.dim) (hfactor : ∀ e, siFactor s.units e = siFactor q.units e) :
    ∃ e, q.dim = wholeDim e ∧ a = ⟨q.value * siFactor q.units e, wholeDim e⟩ ∧
      b.magnitude = s.value * siFactor q.units e := by
  obtain ⟨_, e, hqdim, rfl⟩ := hq
  obtain ⟨_, e', _, rfl⟩ := hs
  have he : e = e' := wholeDim_inj.mp hdim
  rw [← he, hfactor]
  exact ⟨e, hqdim, rfl, rfl⟩

theorem add_simulates (hr : Coherent r) (hq : Expresses r q a) (hs : Expresses r s b) :
    Simulates (Expresses r) (q.add s) (a.add b) := by
  refine checkSameDim_simulates hq hs ?_
  intro hdim
  refine toUnits_bind hr hs hq.within ?_
  intro s' hs' hfactor
  obtain ⟨e, hqdim, ha, hb⟩ := magnitudes_of_sameDim hq hs' hdim hfactor
  refine ⟨hq.within, e, hqdim, ?_⟩
  rw [hb, ha, add_eq, add_mul]

theorem sub_simulates (hr : Coherent r) (hq : Expresses r q a) (hs : Expresses r s b) :
    Simulates (Expresses r) (q.sub s) (a.sub b) := by
  refine checkSameDim_simulates hq hs ?_
  intro hdim
  refine toUnits_bind hr hs hq.within ?_
  intro s' hs' hfactor
  obtain ⟨e, hqdim, ha, hb⟩ := magnitudes_of_sameDim hq hs' hdim hfactor
  refine ⟨hq.within, e, hqdim, ?_⟩
  rw [hb, ha, sub_eq, sub_mul]

theorem mod_simulates (hr : Coherent r) (hq : Expresses r q a) (hs : Expresses r s b) :
    Simulates (Expresses r) (q.mod s) (a.mod b) := by
  refine checkSameDim_simulates hq hs ?_
  intro hdim
  refine toUnits_bind hr hs hq.within ?_
  intro s' hs' hfactor
  by_cases hzero : b.magnitude = 0
  · rw [if_pos ((isZero_value_iff hr hs').mpr hzero), if_pos hzero]
    rfl
  · have hvalue : s'.value ≠ 0 := fun h => hzero ((value_eq_zero_iff hr hs').mp h)
    have hremainder : Scalar.remainder? q.value s'.value = some (remainder q.value s'.value) :=
      if_neg hvalue
    rw [if_neg (fun h => hzero ((isZero_value_iff hr hs').mp h)), if_neg hzero, hremainder]
    obtain ⟨e, hqdim, ha, hb⟩ := magnitudes_of_sameDim hq hs' hdim hfactor
    refine ⟨hq.within, e, hqdim, ?_⟩
    rw [hb, ha, remainder_mul_right _ _ (siFactor_pos (hq.within.positive hr) e).ne']

theorem neg_expresses (hq : Expresses r q a) : Expresses r q.neg a.neg := by
  obtain ⟨hc, e, hdim, rfl⟩ := hq
  refine ⟨hc, e, hdim, ?_⟩
  rw [Quantity.neg, neg_eq, neg_mul]
  rfl

theorem abs_expresses (hr : Coherent r) (hq : Expresses r q a) :
    Expresses r q.abs a.abs := by
  obtain ⟨hc, e, hdim, rfl⟩ := hq
  refine ⟨hc, e, hdim, ?_⟩
  rw [Amount.abs, abs_mul, abs_of_pos (siFactor_pos (hc.positive hr) e)]
  rfl

/-! ## Products -/

/-- Values in one context are multiplied like the amounts. -/
theorem product_simulates (hr : Coherent r) {c : Context ℚ} (hc : Within r c)
    (hq : Expresses r q a) (hs : Expresses r s b)
    (hqc : ∀ e, siFactor q.units e = siFactor c e) (hsc : ∀ e, siFactor s.units e = siFactor c e)
    (operation : Operation) :
    Simulates (Expresses r)
      (Quantity.productDim q.dim s.dim >>= fun dim =>
        Quantity.finite (Scalar.mul q.value s.value) dim c operation) (.ok (a.mul b)) := by
  obtain ⟨_, e, hdim, rfl⟩ := hq
  obtain ⟨_, e', hdim', rfl⟩ := hs
  rw [productDim_eq, hdim, hdim', wholeDim_add]
  refine ⟨hc, e.zipWith (· + ·) e', rfl, ?_⟩
  rw [Amount.mul, wholeDim_add, siFactor_add (hc.positive hr), hqc, hsc, mul_eq,
    mul_mul_mul_comm]

/-- Values in one context are divided like the amounts. -/
theorem quotient_simulates (hr : Coherent r) {c : Context ℚ} (hc : Within r c)
    (hq : Expresses r q a) (hs : Expresses r s b) (hb : b.magnitude ≠ 0)
    (hqc : ∀ e, siFactor q.units e = siFactor c e) (hsc : ∀ e, siFactor s.units e = siFactor c e)
    (operation : Operation) :
    Simulates (Expresses r)
      (Quantity.quotientDim q.dim s.dim >>= fun dim =>
        Quantity.finite (Scalar.div q.value s.value) dim c operation) (a.div b) := by
  rw [Amount.div, if_neg hb]
  obtain ⟨_, e, hdim, rfl⟩ := hq
  obtain ⟨_, e', hdim', rfl⟩ := hs
  rw [quotientDim_eq, hdim, hdim', wholeDim_sub]
  refine ⟨hc, e.zipWith (· - ·) e', rfl, ?_⟩
  rw [siFactor_sub (hc.positive hr), hqc, hsc, div_eq, div_mul_div_comm]

theorem mul_simulates (hr : Coherent r) (hq : Expresses r q a) (hs : Expresses r s b) :
    Simulates (Expresses r) (q.mul s) (.ok (a.mul b)) := by
  refine toUnits_bind hr hs hq.within ?_
  intro s' hs' hfactor
  exact product_simulates hr hq.within hq hs' (fun _ => rfl) hfactor .multiply

theorem div_simulates (hr : Coherent r) (hq : Expresses r q a) (hs : Expresses r s b) :
    Simulates (Expresses r) (q.div s) (a.div b) := by
  refine toUnits_bind hr hs hq.within ?_
  intro s' hs' hfactor
  by_cases hzero : b.magnitude = 0
  · rw [if_pos ((isZero_value_iff hr hs').mpr hzero), Amount.div, if_pos hzero]
    rfl
  · rw [if_neg (fun h => hzero ((isZero_value_iff hr hs').mp h))]
    exact quotient_simulates hr hq.within hq hs' hzero (fun _ => rfl) hfactor .divide

theorem attach_simulates (hq : Expresses r q a) (hs : Expresses r s b) :
    Simulates (Expresses r) (attach q s) (a.attach b) := by
  refine (plainValue_simulates .unitMagnitude hq).bind ?_
  rintro x _ rfl
  obtain ⟨hc, e, hdim, rfl⟩ := hs
  refine ⟨hc, e, hdim, ?_⟩
  rw [mul_eq, mul_comm s.value x, mul_assoc]

/-! ## Powers and functions -/

theorem powScalar_simulates (hr : Coherent r) (hq : Expresses r q a) (n : ℤ) :
    Simulates (Expresses r) (q.powScalar (n : ℚ))
      (if a.magnitude = 0 ∧ (n : ℚ) < 0 then .error .domain
        else .ok ⟨a.magnitude ^ (n : ℚ).num, a.dim.map (· * (n : ℚ))⟩) := by
  have hiff : q.value = 0 ∧ n < 0 ↔ a.magnitude = 0 ∧ (n : ℚ) < 0 := by
    rw [value_eq_zero_iff hr hq, Int.cast_lt_zero]
  show Simulates _ (Quantity.valuePower _ _ >>= _) _
  rw [Quantity.valuePower, pow_intCast]
  by_cases hzero : a.magnitude = 0 ∧ (n : ℚ) < 0
  · rw [if_pos (hiff.mpr hzero), if_pos hzero]
    rfl
  · rw [if_neg (fun h => hzero (hiff.mp h)), if_neg hzero]
    obtain ⟨hc, e, hdim, rfl⟩ := hq
    rw [pow?_eq, hdim, wholeDim_mul, Rat.num_intCast]
    refine ⟨hc, e.map (· * n), rfl, ?_⟩
    rw [siFactor_mul, mul_zpow]

/-- A power whose exponent, if it is a plain number at all, is whole. -/
theorem pow_simulates (hr : Coherent r) (hq : Expresses r q a) (hs : Expresses r s b)
    (hwhole : b.dim = noDim → b.magnitude.isInt = true) :
    Simulates (Expresses r) (q.pow s) (a.pow b) := by
  unfold Quantity.pow Amount.pow Amount.number
  by_cases h : b.dim = noDim
  · rw [if_pos ((isDimensionless_iff hs).mpr h), if_pos h, value_eq_of_noDim hs h,
      eq_intCast_of_isInt (hwhole h)]
    exact powScalar_simulates hr hq b.magnitude.num
  · rw [if_neg (fun hs' => h ((isDimensionless_iff hs).mp hs')), if_neg h]
    rfl

theorem result?_eq (f : PlainFunction) (x : ℚ) : f.result? x = function? f x := by
  cases f with
  | log | ln => rfl
  | factorial =>
    rw [PlainFunction.result?, add_eq, one_eq]
    rfl

/-- The same given function of the same plain number. -/
theorem applyPlain_simulates (f : PlainFunction) (hq : Expresses r q a) :
    Simulates (Expresses r) (applyPlain f q) (a.apply (function? f)) := by
  rw [applyPlain_eq]
  refine (plainValue_simulates (.argument f) hq).bind ?_
  rintro x _ rfl
  rw [result?_eq]
  cases function? f x with
  | none => rfl
  | some y => exact expresses_ofValue y

theorem applySigned_simulates (hr : Coherent r) (hq : Expresses r q a)
    {f : Quantity ℚ → Except (Fault ℚ) (Quantity ℚ)} {g : Amount → Except Failure Amount}
    (hf : Simulates (Expresses r) (f q.abs) (g a.abs)) :
    Simulates (Expresses r) (applySigned f q) (a.signed g) := by
  refine hf.bind ?_
  intro q' a' hq'
  by_cases hneg : a.magnitude < 0
  · rw [if_pos (isNegative_iff.mpr ((value_neg_iff hr hq).mpr hneg)), if_pos hneg]
    exact neg_expresses hq'
  · rw [if_neg (fun h => hneg ((value_neg_iff hr hq).mp (isNegative_iff.mp h))), if_neg hneg]
    exact hq'

/-! ## Compound units -/

theorem compoundMul_simulates (hr : Coherent r) (hq : Expresses r q a) (hs : Expresses r s b) :
    Simulates (Expresses r) (q.compoundMul s) (.ok (a.mul b)) := by
  have hmerged := hq.within.merge hs.within q.dim s.dim
  refine toUnits_bind hr hq hmerged ?_
  intro q' hq' hfactor
  refine toUnits_bind hr hs hmerged ?_
  intro s' hs' hfactor'
  exact product_simulates hr hmerged hq' hs' hfactor hfactor' .multiply

/-- A unit is never zero, so that a quotient of units exists. -/
theorem compoundDiv_simulates (hr : Coherent r) (hq : Expresses r q a) (hs : Expresses r s b)
    (hb : b.magnitude ≠ 0) : Simulates (Expresses r) (q.compoundDiv s) (a.div b) := by
  have hmerged := hq.within.merge hs.within q.dim s.dim
  refine toUnits_bind hr hq hmerged ?_
  intro q' hq' hfactor
  refine toUnits_bind hr hs hmerged ?_
  intro s' hs' hfactor'
  rw [Quantity.divideBy, if_neg (fun h => hb ((isZero_value_iff hr hs').mp h))]
  exact quotient_simulates hr hmerged hq' hs' hb hfactor hfactor' .divide

end UnitCalc.Exact
