import UnitCalc.Proofs.Exact.Factor

/-!
# Conversion does not depend on the path

A quantity in another context is its amount divided by the amount of one unit of its shape there,
so what a chain of conversions leads to depends on its ends only. The program stops short of the
arithmetic where the contexts compare equal. It then keeps a context whose units can differ in
symbols from those asked for, but as long as units that compare equal have one factor, in nothing
that a conversion or a comparison can tell.
-/

namespace UnitCalc

/-- A conversion that is computed in any case. -/
def Quantity.converted {K : Type} [Scalar K] (q : Quantity K) (units : Context K) :
    Except (Fault K) (Quantity K) := do
  let source ← q.conversionFactor
  let target ← Quantity.factorOf units q.dim
  let value ← Quantity.divideBy (Scalar.mul q.value source) target
  Quantity.finite value q.dim units .convert

theorem Quantity.toUnits_eq_ite {K : Type} [Scalar K] (q : Quantity K) (units : Context K) :
    q.toUnits units = if units.eq q.units then .ok q else q.converted units := rfl

namespace Exact

/-- A context made of some units. -/
def MadeOf (units : List (Unit ℚ)) (c : Context ℚ) : Prop := ∀ axis, c.get axis ∈ units

section Conversions

variable [Given]

/-! ## Units that compare equal -/

/-- Units with positive factors, of which those that compare equal have one factor. -/
structure Uniform (units : List (Unit ℚ)) : Prop where
  positive : ∀ u ∈ units, 0 < u.factor
  same : ∀ u ∈ units, ∀ v ∈ units, u.eq v = true → u.factor = v.factor

section Units

variable {units : List (Unit ℚ)} {u v : Unit ℚ} {a b c : Context ℚ}

theorem MadeOf.positive (hunits : Uniform units) (hc : MadeOf units c) : Positive c :=
  fun axis => hunits.positive _ (hc axis)

/-- Among uniform units to compare equal is to have one name, dimension and factor. -/
theorem Uniform.eq_iff (hunits : Uniform units) (hu : u ∈ units) (hv : v ∈ units) :
    u.eq v = true ↔ u.name = v.name ∧ u.dim = v.dim ∧ u.factor = v.factor := by
  constructor
  · intro h
    have hfactor := hunits.same u hu v hv h
    simp only [Unit.eq, Bool.and_eq_true, beq_iff_eq, dim_eq_iff] at h
    exact ⟨h.1.1, h.1.2, hfactor⟩
  · rintro ⟨hname, hdim, hfactor⟩
    simp [Unit.eq, hname, hdim, hfactor, dim_eq_iff, Scalar.isClose]

theorem context_eq_self (hunits : Uniform units) (ha : MadeOf units a) : a.eq a = true :=
  Context.eq_iff.mpr fun axis =>
    (hunits.eq_iff (ha axis) (ha axis)).mpr ⟨rfl, rfl, rfl⟩

theorem context_eq_symm (hunits : Uniform units) (ha : MadeOf units a) (hb : MadeOf units b)
    (h : a.eq b = true) : b.eq a = true := by
  refine Context.eq_iff.mpr fun axis => ?_
  obtain ⟨hname, hdim, hfactor⟩ :=
    (hunits.eq_iff (ha axis) (hb axis)).mp (Context.eq_iff.mp h axis)
  exact (hunits.eq_iff (hb axis) (ha axis)).mpr ⟨hname.symm, hdim.symm, hfactor.symm⟩

theorem context_eq_trans (hunits : Uniform units) (ha : MadeOf units a) (hb : MadeOf units b)
    (hc : MadeOf units c) (hab : a.eq b = true) (hbc : b.eq c = true) : a.eq c = true := by
  refine Context.eq_iff.mpr fun axis => ?_
  obtain ⟨hname, hdim, hfactor⟩ :=
    (hunits.eq_iff (ha axis) (hb axis)).mp (Context.eq_iff.mp hab axis)
  obtain ⟨hname', hdim', hfactor'⟩ :=
    (hunits.eq_iff (hb axis) (hc axis)).mp (Context.eq_iff.mp hbc axis)
  exact (hunits.eq_iff (ha axis) (hc axis)).mpr
    ⟨hname.trans hname', hdim.trans hdim', hfactor.trans hfactor'⟩

/-- Contexts that compare equal have the same factors. -/
theorem factor_eq (hunits : Uniform units) (ha : MadeOf units a) (hb : MadeOf units b)
    (h : a.eq b = true) (axis : Axis) : (a.get axis).factor = (b.get axis).factor :=
  hunits.same _ (ha axis) _ (hb axis) (Context.eq_iff.mp h axis)

end Units

/-! ## Quantities in other contexts -/

/-- The SI amount of a quantity. -/
def siAmount (q : Quantity ℚ) : ℚ := q.value * shapeFactor q.units q.dim

/-- The amount of a quantity, expressed in another context. -/
def inUnits (q : Quantity ℚ) (c : Context ℚ) : Quantity ℚ :=
  ⟨siAmount q / shapeFactor c q.dim, q.dim, c⟩

/-- A quantity in a context that some units make, of a dimension that conversions can deal with. -/
structure Convertible (units : List (Unit ℚ)) (q : Quantity ℚ) : Prop where
  powers : HasPowers q.dim
  made : MadeOf units q.units

section InUnits

variable {units : List (Unit ℚ)} {q : Quantity ℚ} {a c : Context ℚ}

theorem Convertible.shapeFactor_ne_zero (hunits : Uniform units) (hq : Convertible units q)
    (hc : MadeOf units c) : shapeFactor c q.dim ≠ 0 :=
  (hq.powers.conversionFactor? (hc.positive hunits)).1.ne'

theorem Convertible.inUnits (hq : Convertible units q) (hc : MadeOf units c) :
    Convertible units (inUnits q c) :=
  ⟨hq.powers, hc⟩

theorem siAmount_inUnits (hunits : Uniform units) (hq : Convertible units q)
    (hc : MadeOf units c) : siAmount (inUnits q c) = siAmount q :=
  div_mul_cancel₀ _ (hq.shapeFactor_ne_zero hunits hc)

theorem inUnits_self (hunits : Uniform units) (hq : Convertible units q) :
    inUnits q q.units = q := by
  rw [inUnits, siAmount, mul_div_cancel_right₀ _ (hq.shapeFactor_ne_zero hunits hq.made)]

theorem inUnits_inUnits (hunits : Uniform units) (hq : Convertible units q) (ha : MadeOf units a)
    (c : Context ℚ) : inUnits (inUnits q a) c = inUnits q c := by
  rw [inUnits, siAmount_inUnits hunits hq ha]
  rfl

end InUnits

/-! ## Quantities that match -/

/-- Two quantities of one value and one dimension in contexts that compare equal. -/
structure Matches (q s : Quantity ℚ) : Prop where
  value : q.value = s.value
  dim : q.dim = s.dim
  units : q.units.eq s.units = true

namespace Matches

variable {units : List (Unit ℚ)} {q s p : Quantity ℚ}

theorem refl (hunits : Uniform units) (hq : MadeOf units q.units) : Matches q q :=
  ⟨rfl, rfl, context_eq_self hunits hq⟩

theorem symm (hunits : Uniform units) (hq : MadeOf units q.units) (hs : MadeOf units s.units)
    (h : Matches q s) : Matches s q :=
  ⟨h.value.symm, h.dim.symm, context_eq_symm hunits hq hs h.units⟩

theorem trans (hunits : Uniform units) (hq : MadeOf units q.units) (hs : MadeOf units s.units)
    (hp : MadeOf units p.units) (hqs : Matches q s) (hsp : Matches s p) : Matches q p :=
  ⟨hqs.value.trans hsp.value, hqs.dim.trans hsp.dim,
    context_eq_trans hunits hq hs hp hqs.units hsp.units⟩

theorem siAmount_eq (hunits : Uniform units) (hq : MadeOf units q.units)
    (hs : MadeOf units s.units) (h : Matches q s) : siAmount q = siAmount s := by
  rw [siAmount, siAmount, h.value, h.dim, shapeFactor_congr (factor_eq hunits hq hs h.units)]

theorem inUnits_eq (hunits : Uniform units) (hq : MadeOf units q.units)
    (hs : MadeOf units s.units) (h : Matches q s) (c : Context ℚ) : inUnits q c = inUnits s c := by
  rw [inUnits, inUnits, h.siAmount_eq hunits hq hs, h.dim]

end Matches

/-! ## Conversions -/

section Conversion

variable {units : List (Unit ℚ)} {e : PerAxis ℤ} {q s : Quantity ℚ} {a b c : Context ℚ}

theorem factorOf_eq {d : Dimension ℚ} (hd : HasPowers d) (hc : Positive c) :
    Quantity.factorOf c d = .ok (shapeFactor c d) := by
  rw [Quantity.factorOf, (hd.conversionFactor? hc).2]

/-- What a conversion computes. -/
theorem converted_eq (hd : HasPowers q.dim) (hq : Positive q.units) (hc : Positive c) :
    q.converted c = .ok (inUnits q c) := by
  rw [Quantity.converted, Quantity.conversionFactor, factorOf_eq hd hq, factorOf_eq hd hc]
  show Quantity.divideBy _ _ >>= _ = _
  rw [Quantity.divideBy, if_neg (by rw [isZero_iff]; exact (hd.conversionFactor? hc).1.ne')]
  rfl

theorem Convertible.converted_eq (hunits : Uniform units) (hq : Convertible units q)
    (hc : MadeOf units c) : q.converted c = .ok (Exact.inUnits q c) :=
  Exact.converted_eq hq.powers (hq.made.positive hunits) (hc.positive hunits)

/-- Between contexts that compare equal a conversion would compute what is there already. -/
theorem matches_inUnits (hunits : Uniform units) (hq : Convertible units q) (hc : MadeOf units c)
    (h : c.eq q.units = true) : Matches q (inUnits q c) := by
  refine ⟨?_, rfl, context_eq_symm hunits hc hq.made h⟩
  rw [inUnits, siAmount, shapeFactor_congr (factor_eq hunits hc hq.made h),
    mul_div_cancel_right₀ _ (hq.shapeFactor_ne_zero hunits hq.made)]

/-- A conversion always has a result, which matches what would be computed. -/
theorem toUnits_matches (hunits : Uniform units) (hq : Convertible units q) (hc : MadeOf units c) :
    ∃ s, q.toUnits c = .ok s ∧ Convertible units s ∧ Matches s (inUnits q c) := by
  rw [Quantity.toUnits_eq_ite]
  by_cases heq : c.eq q.units = true
  · rw [if_pos heq]
    exact ⟨q, rfl, hq, matches_inUnits hunits hq hc heq⟩
  · rw [if_neg heq, hq.converted_eq hunits hc]
    exact ⟨_, rfl, hq.inUnits hc, .refl hunits hc⟩

/-- A conversion keeps the amount. -/
theorem siAmount_toUnits (hunits : Uniform units) (hq : Convertible units q)
    (hc : MadeOf units c) (h : q.toUnits c = .ok s) : siAmount s = siAmount q := by
  obtain ⟨s', hs', hwhole, hmatches⟩ := toUnits_matches hunits hq hc
  rw [h] at hs'
  cases hs'
  rw [hmatches.siAmount_eq hunits hwhole.made hc, siAmount_inUnits hunits hq hc]

/-- A conversion there and back restores a quantity with its context. -/
theorem toUnits_back (hunits : Uniform units) (hq : Convertible units q) (hc : MadeOf units c)
    (h : q.toUnits c = .ok s) : s.toUnits q.units = .ok q := by
  rw [Quantity.toUnits_eq_ite] at h
  by_cases heq : c.eq q.units = true
  · rw [if_pos heq] at h
    cases h
    exact Quantity.toUnits_of_eq (context_eq_self hunits hq.made)
  · rw [if_neg heq, hq.converted_eq hunits hc] at h
    cases h
    have hback : ¬ q.units.eq (inUnits q c).units = true :=
      fun h => heq (context_eq_symm hunits hq.made hc h)
    rw [Quantity.toUnits_eq_ite, if_neg hback, (hq.inUnits hc).converted_eq hunits hq.made,
      inUnits_inUnits hunits hq hc, inUnits_self hunits hq]

/-- For every quantity with whole exponents and any two contexts, made of units with positive
factors of which those that compare equal have one factor: conversion to one context and on to
the other has a result with the value and the dimension of the direct conversion, in a context
that compares equal; conversion back restores the quantity; the dimension and the amount stay;
and what would be computed without a look at the contexts matches the result. -/
theorem toUnits_independent_of_path (hunits : Uniform units) (hdim : q.dim = wholeDim e)
    (hq : MadeOf units q.units) (ha : MadeOf units a) (hb : MadeOf units b) :
    ∃ qa qb qab, q.toUnits a = .ok qa ∧ q.toUnits b = .ok qb ∧ qa.toUnits b = .ok qab ∧
      Matches qab qb ∧ qa.toUnits q.units = .ok q ∧ qa.dim = q.dim ∧
      (∃ f f', q.conversionFactor = .ok f ∧ qa.conversionFactor = .ok f' ∧
        f' * qa.value = f * q.value) ∧
      ∃ s, q.converted a = .ok s ∧ s.units = a ∧ Matches qa s := by
  have hq : Convertible units q := ⟨hdim ▸ hasPowers_wholeDim e, hq⟩
  obtain ⟨qa, hqa, ha', hmatches⟩ := toUnits_matches hunits hq ha
  obtain ⟨qb, hqb, hb', hmatches'⟩ := toUnits_matches hunits hq hb
  obtain ⟨qab, hqab, hab', hmatches''⟩ := toUnits_matches hunits ha' hb
  refine ⟨qa, qb, qab, hqa, hqb, hqab, ?_, toUnits_back hunits hq ha hqa, hmatches.dim,
    ⟨_, _, factorOf_eq hq.powers (hq.made.positive hunits),
      factorOf_eq ha'.powers (ha'.made.positive hunits), ?_⟩,
    ⟨_, hq.converted_eq hunits ha, rfl, hmatches⟩⟩
  · -- Both results match the amount of `q` in the context that is asked for.
    rw [hmatches.inUnits_eq hunits ha'.made ha, inUnits_inUnits hunits hq ha] at hmatches''
    exact hmatches''.trans hunits hab'.made hb hb'.made (hmatches'.symm hunits hb'.made hb)
  · have hamount := siAmount_toUnits hunits hq ha hqa
    rwa [siAmount, siAmount, mul_comm, mul_comm q.value] at hamount

end Conversion

/-! ## A speed in three contexts -/

/-- A unit of length with one of its symbols. -/
def mile (symbol : String) : Unit ℚ :=
  ⟨"mile", symbol, symbol, 1609344 / 1000, "length", .ofAxis .length⟩

def foot : Unit ℚ := ⟨"foot", "ft", "ft", 3048 / 10000, "length", .ofAxis .length⟩

def hour : Unit ℚ := ⟨"hour", "h", "h", 3600, "time", .ofAxis .time⟩

/-- Units for speeds, of which two differ in their symbols only. -/
def speedUnits : List (Unit ℚ) :=
  [.meter, .kilogram, .second, foot, hour, mile "mi", mile "mile"]

/-- The speed `3 mi/h`. -/
def threeMilesPerHour : Quantity ℚ :=
  ⟨3, wholeDim ⟨1, 0, -1⟩, ⟨mile "mi", .kilogram, hour⟩⟩

theorem madeOf_speedUnits {length time : Unit ℚ} (hlength : length ∈ speedUnits)
    (htime : time ∈ speedUnits) : MadeOf speedUnits ⟨length, .kilogram, time⟩ := by
  intro axis
  cases axis
  · exact hlength
  · exact List.mem_cons_of_mem _ List.mem_cons_self
  · exact htime

end Conversions

theorem uniform_speedUnits : @Uniform noFunctions (@speedUnits noFunctions) := by
  let _ := noFunctions
  exact ⟨by decide +kernel, by decide +kernel⟩

/-- The speed comes to `22/5 ft/s`, and from there to the miles of another symbol. -/
theorem toUnits_speed :
    letI := noFunctions
    ∃ qa qb qab, threeMilesPerHour.toUnits ⟨foot, .kilogram, .second⟩ = .ok qa ∧
      qa.value = 22 / 5 ∧ threeMilesPerHour.toUnits ⟨mile "mile", .kilogram, hour⟩ = .ok qb ∧
      qa.toUnits ⟨mile "mile", .kilogram, hour⟩ = .ok qab ∧ Matches qab qb ∧
      qa.toUnits threeMilesPerHour.units = .ok threeMilesPerHour := by
  let _ := noFunctions
  obtain ⟨qa, qb, qab, hqa, hqb, hqab, hmatches, hback, _⟩ :=
    toUnits_independent_of_path (q := threeMilesPerHour) (a := ⟨foot, .kilogram, .second⟩)
      (b := ⟨mile "mile", .kilogram, hour⟩) uniform_speedUnits rfl
      (madeOf_speedUnits (by simp [speedUnits]) (by simp [speedUnits]))
      (madeOf_speedUnits (by simp [speedUnits]) (by simp [speedUnits]))
      (madeOf_speedUnits (by simp [speedUnits]) (by simp [speedUnits]))
  refine ⟨qa, qb, qab, hqa, ?_, hqb, hqab, hmatches, hback⟩
  have hvalue : (threeMilesPerHour.toUnits ⟨foot, .kilogram, .second⟩).toOption.map (·.value) =
      some (22 / 5) := by decide +kernel
  rw [hqa] at hvalue
  exact Option.some.inj hvalue

end Exact

end UnitCalc
