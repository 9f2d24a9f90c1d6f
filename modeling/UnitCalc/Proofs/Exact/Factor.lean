import Mathlib.Algebra.Order.Field.Power
import UnitCalc.Proofs.Exact.Scalar
import UnitCalc.Proofs.Registry.Origin

/-!
# Conversion factors

With whole exponents the SI amount of one `context ^ dim` is a product of powers, and it
turns sums of dimensions into products. So does every context, and this is why a context can
be left for another.
-/

namespace UnitCalc.Exact

/-! ## Whole dimensions -/

/-- The dimension with whole exponents. -/
def wholeDim (e : PerAxis ℤ) : Dimension ℚ := e.map Int.cast

section WholeDim

variable {e e' : PerAxis ℤ}

@[simp] theorem get_wholeDim (e : PerAxis ℤ) (axis : Axis) :
    (wholeDim e).get axis = e.get axis := PerAxis.get_map ..

theorem wholeDim_inj : wholeDim e = wholeDim e' ↔ e = e' := by
  constructor
  · intro h
    refine PerAxis.ext_get ?_
    intro axis
    have haxis := congrArg (PerAxis.get · axis) h
    simpa using haxis
  · intro h
    rw [h]

variable [Given]

theorem dim_eq_iff {d d' : Dimension ℚ} : d.eq d' = true ↔ d = d' := by
  rw [Dimension.eq_iff]
  constructor
  · intro h
    exact PerAxis.ext_get fun axis => eq_iff.mp (h axis)
  · intro h axis
    rw [h, eq_iff]

/-- A base unit has the dimension of its axis. -/
theorem dim_of_axis? {u : Unit ℚ} {axis : Axis} (h : u.axis? = some axis) :
    u.dim = .ofAxis axis :=
  dim_eq_iff.mp <| List.find?_some (p := fun axis => u.dim.eq (.ofAxis axis)) h

theorem dim_isZero_iff {d : Dimension ℚ} : d.isZero = true ↔ d = ⟨0, 0, 0⟩ := by
  rw [Dimension.isZero_iff]
  constructor
  · intro h
    refine PerAxis.ext_get ?_
    intro axis
    rw [isZero_iff.mp (h axis)]
    cases axis <;> rfl
  · intro h axis
    rw [h, isZero_iff]
    cases axis <;> rfl

theorem ofExponents?_eq (d : Dimension ℚ) : Dimension.ofExponents? d = some d := by
  rw [Dimension.ofExponents?_eq_some_iff]
  refine ⟨fun _ => rfl, PerAxis.ext_get ?_⟩
  intro axis
  rw [PerAxis.get_map, add_eq, zero_eq, add_zero]

theorem productDim_eq (d d' : Dimension ℚ) :
    Quantity.productDim d d' = .ok (d.zipWith (· + ·) d') := by
  rw [Quantity.productDim, Dimension.mul?, ofExponents?_eq]
  rfl

theorem quotientDim_eq (d d' : Dimension ℚ) :
    Quantity.quotientDim d d' = .ok (d.zipWith (· - ·) d') := by
  rw [Quantity.quotientDim, Dimension.div?, ofExponents?_eq]
  rfl

theorem pow?_eq (d : Dimension ℚ) (n : ℚ) : d.pow? n = some (d.map (· * n)) := by
  rw [Dimension.pow?, ofExponents?_eq]
  rfl

end WholeDim

theorem wholeDim_zero : wholeDim ⟨0, 0, 0⟩ = ⟨0, 0, 0⟩ := by
  simp [wholeDim, PerAxis.map]

theorem wholeDim_add (e e' : PerAxis ℤ) :
    (wholeDim e).zipWith (· + ·) (wholeDim e') = wholeDim (e.zipWith (· + ·) e') := by
  simp [wholeDim, PerAxis.map, PerAxis.zipWith]

theorem wholeDim_sub (e e' : PerAxis ℤ) :
    (wholeDim e).zipWith (· - ·) (wholeDim e') = wholeDim (e.zipWith (· - ·) e') := by
  simp [wholeDim, PerAxis.map, PerAxis.zipWith]

theorem wholeDim_mul (e : PerAxis ℤ) (n : ℤ) :
    (wholeDim e).map (· * (n : ℚ)) = wholeDim (e.map (· * n)) := by
  simp [wholeDim, PerAxis.map]

/-! ## Products of powers -/

/-- The product of the powers of one number for each base quantity. -/
def scaleBy (s : PerAxis ℚ) (e : PerAxis ℤ) : ℚ :=
  s.length ^ e.length * s.mass ^ e.mass * s.time ^ e.time

section Scale

variable {s : PerAxis ℚ}

theorem scaleBy_pos (hs : ∀ axis, 0 < s.get axis) (e : PerAxis ℤ) : 0 < scaleBy s e :=
  mul_pos (mul_pos (zpow_pos (hs .length) _) (zpow_pos (hs .mass) _)) (zpow_pos (hs .time) _)

@[simp] theorem scaleBy_zero (s : PerAxis ℚ) : scaleBy s ⟨0, 0, 0⟩ = 1 := by
  simp [scaleBy]

theorem scaleBy_add (hs : ∀ axis, 0 < s.get axis) (e e' : PerAxis ℤ) :
    scaleBy s (e.zipWith (· + ·) e') = scaleBy s e * scaleBy s e' := by
  have hlength : s.length ≠ 0 := (hs .length).ne'
  have hmass : s.mass ≠ 0 := (hs .mass).ne'
  have htime : s.time ≠ 0 := (hs .time).ne'
  simp only [scaleBy, PerAxis.zipWith]
  rw [zpow_add₀ hlength, zpow_add₀ hmass, zpow_add₀ htime]
  ring

theorem scaleBy_sub (hs : ∀ axis, 0 < s.get axis) (e e' : PerAxis ℤ) :
    scaleBy s (e.zipWith (· - ·) e') = scaleBy s e / scaleBy s e' := by
  rw [eq_div_iff (scaleBy_pos hs e').ne', ← scaleBy_add hs]
  simp [PerAxis.zipWith]

theorem scaleBy_mul (s : PerAxis ℚ) (e : PerAxis ℤ) (n : ℤ) :
    scaleBy s (e.map (· * n)) = scaleBy s e ^ n := by
  simp only [scaleBy, PerAxis.map, zpow_mul, mul_zpow]

end Scale

/-! ## Factors -/

/-- Whether all factors of a context are positive. -/
def Positive (c : Context ℚ) : Prop := ∀ axis, 0 < (c.get axis).factor

/-- The SI amount of one `context ^ e`. -/
def siFactor (c : Context ℚ) (e : PerAxis ℤ) : ℚ :=
  c.length.factor ^ e.length * c.mass.factor ^ e.mass * c.time.factor ^ e.time

section Factor

variable {c c' : Context ℚ}

theorem Positive.get_map (hc : Positive c) (axis : Axis) :
    0 < (c.map Unit.factor).get axis := by
  rw [PerAxis.get_map]
  exact hc axis

theorem siFactor_pos (hc : Positive c) (e : PerAxis ℤ) : 0 < siFactor c e :=
  scaleBy_pos hc.get_map e

@[simp] theorem siFactor_zero (c : Context ℚ) : siFactor c ⟨0, 0, 0⟩ = 1 :=
  scaleBy_zero (c.map Unit.factor)

theorem siFactor_add (hc : Positive c) (e e' : PerAxis ℤ) :
    siFactor c (e.zipWith (· + ·) e') = siFactor c e * siFactor c e' :=
  scaleBy_add hc.get_map e e'

theorem siFactor_sub (hc : Positive c) (e e' : PerAxis ℤ) :
    siFactor c (e.zipWith (· - ·) e') = siFactor c e / siFactor c e' :=
  scaleBy_sub hc.get_map e e'

theorem siFactor_mul (c : Context ℚ) (e : PerAxis ℤ) (n : ℤ) :
    siFactor c (e.map (· * n)) = siFactor c e ^ n :=
  scaleBy_mul (c.map Unit.factor) e n

theorem siFactor_congr (h : ∀ axis, (c.get axis).factor = (c'.get axis).factor)
    (e : PerAxis ℤ) : siFactor c e = siFactor c' e := by
  have hlength : c.length.factor = c'.length.factor := h .length
  have hmass : c.mass.factor = c'.mass.factor := h .mass
  have htime : c.time.factor = c'.time.factor := h .time
  rw [siFactor, siFactor, hlength, hmass, htime]

variable [Given]

theorem scale?_intCast {u : Unit ℚ} (hu : 0 < u.factor) (x : ℚ) (n : ℤ) :
    Context.scale? x u (n : ℚ) = some (x * u.factor ^ n) := by
  unfold Context.scale?
  split
  · rename_i hzero
    rw [isZero_iff, Int.cast_eq_zero] at hzero
    rw [hzero, zpow_zero, mul_one]
  · rw [pow_intCast_of_pos hu]
    rfl

/-- A context with positive factors converts every whole dimension. -/
theorem conversionFactor?_wholeDim (hc : Positive c) (e : PerAxis ℤ) :
    c.conversionFactor? (wholeDim e) = some (siFactor c e) := by
  have hlength : 0 < c.length.factor := hc .length
  have hmass : 0 < c.mass.factor := hc .mass
  have htime : 0 < c.time.factor := hc .time
  simp only [Context.conversionFactor?, wholeDim, PerAxis.map, one_eq, scale?_intCast hlength,
    scale?_intCast hmass, scale?_intCast htime, one_mul, Option.bind_eq_bind, Option.bind_some]
  rfl

theorem siFactor_si (e : PerAxis ℤ) : siFactor .si e = 1 := by
  simp [siFactor, Context.si, Unit.meter, Unit.kilogram, Unit.second]

end Factor

/-! ## Factors of any shape -/

section AnyShape

variable [Given]

/-- Whether positive numbers raised to the exponents of a dimension are positive numbers, and one
stays one. Whole exponents are of this kind, others are as far as the roots are that arithmetic
takes as given. -/
structure HasPowers (d : Dimension ℚ) : Prop where
  pos : ∀ axis x, 0 < x → ∃ y, 0 < y ∧ Scalar.pow x (d.get axis) = .value y
  one : ∀ axis, Scalar.pow 1 (d.get axis) = .value 1

theorem hasPowers_wholeDim (e : PerAxis ℤ) : HasPowers (wholeDim e) where
  pos axis x hx := by
    refine ⟨x ^ e.get axis, zpow_pos hx _, ?_⟩
    rw [get_wholeDim, pow_intCast_of_pos hx]
  one axis := by rw [get_wholeDim, pow_intCast_of_pos one_pos, one_zpow]

/-- The SI amount of one `context ^ dim`, which counts as one where it has no value. -/
def shapeFactor (c : Context ℚ) (d : Dimension ℚ) : ℚ := (c.conversionFactor? d).getD 1

section ShapeFactor

variable {c c' : Context ℚ} {d : Dimension ℚ}

theorem shapeFactor_wholeDim (hc : Positive c) (e : PerAxis ℤ) :
    shapeFactor c (wholeDim e) = siFactor c e := by
  rw [shapeFactor, conversionFactor?_wholeDim hc, Option.getD_some]

theorem HasPowers.scale? (hd : HasPowers d) {x : ℚ} (hx : 0 < x) {u : Unit ℚ} (hu : 0 < u.factor)
    (axis : Axis) : ∃ y, 0 < y ∧ Context.scale? x u (d.get axis) = some y := by
  obtain ⟨p, hp, hpow⟩ := hd.pos axis u.factor hu
  unfold Context.scale?
  split
  · exact ⟨x, hx, rfl⟩
  · rw [hpow]
    exact ⟨x * p, mul_pos hx hp, rfl⟩

theorem HasPowers.conversionFactor? (hd : HasPowers d) (hc : Positive c) :
    0 < shapeFactor c d ∧ c.conversionFactor? d = some (shapeFactor c d) := by
  obtain ⟨x, hx, hlength⟩ := hd.scale? scalar_one_pos (hc .length) .length
  obtain ⟨y, hy, hmass⟩ := hd.scale? hx (hc .mass) .mass
  obtain ⟨z, hz, htime⟩ := hd.scale? hy (hc .time) .time
  have hfactor : c.conversionFactor? d = some z := by
    simp only [PerAxis.get] at hlength hmass htime
    simp only [Context.conversionFactor?, hlength, hmass, htime, Option.bind_eq_bind,
      Option.bind_some]
  rw [shapeFactor, hfactor]
  exact ⟨hz, rfl⟩

/-- One of the SI units of any shape amounts to one. -/
theorem HasPowers.shapeFactor_si (hd : HasPowers d) : shapeFactor .si d = 1 := by
  have hscale (axis : Axis) (u : Unit ℚ) (hu : u.factor = 1) :
      Context.scale? 1 u (d.get axis) = some 1 := by
    unfold Context.scale?
    split
    · rfl
    · rw [hu, hd.one]
      exact congrArg some (mul_one _)
  have hlength := hscale .length .meter one_eq
  have hmass := hscale .mass .kilogram one_eq
  have htime := hscale .time .second one_eq
  simp only [PerAxis.get] at hlength hmass htime
  simp only [shapeFactor, Context.conversionFactor?, Context.si, one_eq, hlength, hmass, htime,
    Option.bind_eq_bind, Option.bind_some, Option.getD_some]

theorem shapeFactor_congr (h : ∀ axis, (c.get axis).factor = (c'.get axis).factor)
    (d : Dimension ℚ) : shapeFactor c d = shapeFactor c' d := by
  have hscale (x n : ℚ) {u v : Unit ℚ} (huv : u.factor = v.factor) :
      Context.scale? x u n = Context.scale? x v n := by
    rw [Context.scale?, Context.scale?, huv]
  have hlength : c.length.factor = c'.length.factor := h .length
  have hmass : c.mass.factor = c'.mass.factor := h .mass
  have htime : c.time.factor = c'.time.factor := h .time
  simp only [shapeFactor, Context.conversionFactor?, hscale _ _ hlength, hscale _ _ hmass,
    hscale _ _ htime]

end ShapeFactor

end AnyShape

/-! ## Units of a registry -/

section Known

variable [Given]

def siUnits : List (Unit ℚ) := [.meter, .kilogram, .second]

/-- The units that a calculation can meet: the SI units and those of the registry. -/
def known (r : Registry ℚ) : List (Unit ℚ) :=
  siUnits ++ r.bindings.map (·.2)

theorem mem_known_of_find? {r : Registry ℚ} {spelling : String} {u : Unit ℚ}
    (hu : r.find? spelling = some u) : u ∈ known r :=
  List.mem_append_right _ (List.mem_map_of_mem (f := (·.2)) (Registry.mem_of_find? hu))

/-- A registry in which units differ if their factors do, and all factors and dimensions are
as exact arithmetic needs them. -/
structure Coherent (r : Registry ℚ) : Prop where
  positive : ∀ u ∈ known r, 0 < u.factor
  whole : ∀ u ∈ known r, ∃ e, u.dim = wholeDim e
  same : ∀ u ∈ known r, ∀ v ∈ known r, u.eq v = true → u.factor = v.factor

theorem exists_ofInts_eq (length mass time : ℤ) :
    ∃ e, (Dimension.ofInts length mass time : Dimension ℚ) = wholeDim e :=
  ⟨⟨length, mass, time⟩, rfl⟩

/-- The exponents of every family of units are whole. -/
theorem exists_family_dim_eq (family : Family) :
    ∃ e, (family.dim : Dimension ℚ) = wholeDim e := by
  cases family <;> exact exists_ofInts_eq ..

theorem positive_si : Positive .si := by
  intro axis
  cases axis <;> exact scalar_one_pos

/-- The units of a constructed registry have positive factors. -/
theorem factor_pos_of_mem {records : List (UnitRecord ℚ)} {r : Registry ℚ}
    (hr : Registry.ofRecords records = .ok r) {binding : String × Unit ℚ}
    (h : binding ∈ r.bindings) : 0 < binding.2.factor := by
  obtain ⟨record, _, hunit, hvalid⟩ := Registry.exists_record_of_mem hr h
  rw [hunit]
  simpa [Unit.validFactor] using hvalid

/-- A constructed registry is coherent if units that compare equal have the same factor. -/
theorem coherent_of_ofRecords {records : List (UnitRecord ℚ)} {r : Registry ℚ}
    (hr : Registry.ofRecords records = .ok r)
    (hsame : ∀ u ∈ known r, ∀ v ∈ known r, u.eq v = true → u.factor = v.factor) :
    Coherent r := by
  have hbindings : ∀ u ∈ r.bindings.map (·.2), 0 < u.factor ∧ ∃ e, u.dim = wholeDim e := by
    intro u hu
    obtain ⟨binding, hbinding, rfl⟩ := List.mem_map.mp hu
    obtain ⟨record, _, hunit, _⟩ := Registry.exists_record_of_mem hr hbinding
    exact ⟨factor_pos_of_mem hr hbinding, hunit ▸ exists_family_dim_eq record.family⟩
  have hsi : ∀ u ∈ siUnits, 0 < u.factor ∧ ∃ e, u.dim = wholeDim e := by
    intro u hu
    simp only [siUnits, List.mem_cons, List.not_mem_nil, or_false] at hu
    rcases hu with rfl | rfl | rfl <;> exact ⟨scalar_one_pos, exists_ofInts_eq ..⟩
  have hknown (u : Unit ℚ) (hu : u ∈ known r) : 0 < u.factor ∧ ∃ e, u.dim = wholeDim e :=
    (List.mem_append.mp hu).elim (hsi u) (hbindings u)
  exact ⟨fun u hu => (hknown u hu).1, fun u hu => (hknown u hu).2, hsame⟩

end Known

end UnitCalc.Exact
