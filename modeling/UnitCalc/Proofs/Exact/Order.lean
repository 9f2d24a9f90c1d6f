import UnitCalc.Proofs.Alike
import UnitCalc.Proofs.Exact.Conversion
import UnitCalc.Quantity.Order

/-!
# The tolerant order

Quantities are compared by their SI amounts, and amounts within a tolerance of each other count
as close. Being close is not transitive, but an order is left: of two amounts one is below the
other or they are close, and what is below is so by more than the tolerance, which adds up along a
chain. All answers of the comparisons can be read off the place of one amount beside the other.
-/

namespace UnitCalc

/-- The class that the comparisons put a quantity in: smaller than another one, larger, or
neither. -/
def Quantity.classify {K : Type} [Scalar K] (q p : Quantity K) : Except (Fault K) Ordering := do
  if ← q.lt p then .ok .lt
  else if ← q.gt p then .ok .gt
  else .ok .eq

/-- Of quantities of different dimensions none is smaller, and none is equal or close. -/
theorem Quantity.mismatch_of_dim_ne {K : Type} [Scalar K] {q p : Quantity K}
    (h : q.dim.eq p.dim = false) :
    q.lt p = .error (.dimension (.mismatch .compare q p)) ∧
      q.le p = .error (.dimension (.mismatch .compare q p)) ∧
      q.gt p = .error (.dimension (.mismatch .compare q p)) ∧
      q.ge p = .error (.dimension (.mismatch .compare q p)) ∧
      q.eq p = false ∧ ∀ relative absolute, q.isClose p relative absolute = .ok false := by
  have hamounts : q.amounts p = .error (.dimension (.mismatch .compare q p)) := by
    rw [Quantity.amounts, Quantity.checkSameDim, h]
    rfl
  refine ⟨?_, ?_, ?_, ?_, ?_, ?_⟩
  · rw [Quantity.lt, hamounts]
    rfl
  · rw [Quantity.le, hamounts]
    rfl
  · rw [Quantity.gt, hamounts]
    rfl
  · rw [Quantity.ge, hamounts]
    rfl
  · simp [Quantity.eq, h]
  · intro relative absolute
    simp [Quantity.isClose, h]

namespace Exact

/-! ## Amounts within a tolerance -/

/-- Two amounts that differ by no more than a part of the larger one. -/
def Close (ε a b : ℚ) : Prop := |a - b| ≤ ε * max |a| |b|

instance (ε a b : ℚ) : Decidable (Close ε a b) :=
  inferInstanceAs (Decidable (|a - b| ≤ ε * max |a| |b|))

/-- An amount that is smaller than another one and not close to it. -/
def Below (ε a b : ℚ) : Prop := a < b ∧ ¬ Close ε a b

section Tolerance

variable {ε ε' a b c : ℚ}

namespace Close

theorem self (hε : 0 ≤ ε) (a : ℚ) : Close ε a a := by
  rw [Close, sub_self, abs_zero]
  exact mul_nonneg hε (le_max_of_le_left (abs_nonneg a))

theorem symm (h : Close ε a b) : Close ε b a := by
  rwa [Close, abs_sub_comm, max_comm]

theorem mono (hε : ε ≤ ε') (h : Close ε a b) : Close ε' a b :=
  le_trans h (mul_le_mul_of_nonneg_right hε (le_max_of_le_left (abs_nonneg a)))

/-- The tolerance is in proportion, so that it does not depend on the unit. -/
theorem mul_right (h : Close ε a b) {f : ℚ} (hf : 0 < f) : Close ε (a * f) (b * f) := by
  rw [Close, ← sub_mul, abs_mul, abs_mul, abs_mul, abs_of_pos hf,
    ← max_mul_of_nonneg _ _ hf.le, ← mul_assoc]
  exact mul_le_mul_of_nonneg_right h hf.le

end Close

namespace Below

/-- What is below is so by more than the tolerance. -/
theorem lt_sub (h : Below ε a b) : ε * max |a| |b| < b - a := by
  have hdistance := not_le.mp h.2
  rwa [abs_sub_comm, abs_of_pos (sub_pos.mpr h.1)] at hdistance

/-- The first and the last amount of a chain differ by more than the tolerance, as each of them
does from the one between. -/
theorem trans (hε : 0 ≤ ε) (hab : Below ε a b) (hbc : Below ε b c) : Below ε a c := by
  have hac : a < c := hab.1.trans hbc.1
  refine ⟨hac, not_le.mpr ?_⟩
  rw [abs_sub_comm, abs_of_pos (sub_pos.mpr hac), mul_max_of_nonneg _ _ hε, max_lt_iff]
  have hleft : ε * |a| ≤ ε * max |a| |b| := mul_le_mul_of_nonneg_left (le_max_left ..) hε
  have hright : ε * |c| ≤ ε * max |b| |c| := mul_le_mul_of_nonneg_left (le_max_right ..) hε
  constructor
  · calc ε * |a| ≤ ε * max |a| |b| := hleft
      _ < b - a := hab.lt_sub
      _ < c - a := sub_lt_sub_right hbc.1 a
  · calc ε * |c| ≤ ε * max |b| |c| := hright
      _ < c - b := hbc.lt_sub
      _ < c - a := sub_lt_sub_left hab.1 c

end Below

/-! ## Places -/

/-- The place of an amount beside another one. -/
def place (ε a b : ℚ) : Ordering :=
  if Close ε a b then .eq else if a < b then .lt else .gt

theorem place_eq_eq_iff : place ε a b = .eq ↔ Close ε a b := by
  unfold place
  split
  · simp [*]
  · split <;> simp [*]

theorem place_eq_lt_iff : place ε a b = .lt ↔ Below ε a b := by
  unfold place Below
  split
  · simp [*]
  · split <;> simp [*]

/-- The place of the other amount is the opposite one. -/
theorem place_eq_gt_iff (hε : 0 ≤ ε) : place ε a b = .gt ↔ Below ε b a := by
  unfold place Below
  by_cases hclose : Close ε a b
  · simp [hclose, hclose.symm]
  · have hclose' : ¬ Close ε b a := fun h => hclose h.symm
    have hne : a ≠ b := by
      rintro rfl
      exact hclose (.self hε a)
    rw [if_neg hclose]
    rcases hne.lt_or_gt with hlt | hgt
    · simp [hlt, hlt.le]
    · simp [hgt, hgt.le, hclose']

/-- Seen from the other amount, the place is the opposite one. -/
theorem place_swap (hε : 0 ≤ ε) : place ε b a = (place ε a b).swap := by
  cases h : place ε a b with
  | lt => exact (place_eq_gt_iff hε).mpr (place_eq_lt_iff.mp h)
  | eq => exact place_eq_eq_iff.mpr (place_eq_eq_iff.mp h).symm
  | gt => exact place_eq_lt_iff.mpr ((place_eq_gt_iff hε).mp h)

end Tolerance

section Comparisons

variable [Given]

/-! ## Answers -/

theorem isClose_iff {ε a b : ℚ} (hε : 0 ≤ ε) :
    Scalar.isClose ε Scalar.zero a b = true ↔ Close ε a b := by
  unfold Scalar.isClose Close
  by_cases hab : a = b
  · subst hab
    simpa using mul_nonneg hε (abs_nonneg a)
  · have hne : Scalar.eq a b = false := decide_eq_false hab
    have hdistance : ¬ |b - a| ≤ 0 := by
      rw [abs_nonpos_iff, sub_eq_zero]
      exact fun h => hab h.symm
    have hfinite (x : ℚ) : Scalar.isInfinite x = false := rfl
    simp only [hne, hfinite, Bool.false_eq_true, if_false, Bool.or_self, Bool.or_eq_true, le_iff,
      abs_eq, sub_eq, mul_eq, zero_eq, hdistance, or_false, abs_mul, abs_of_nonneg hε]
    rw [mul_max_of_nonneg _ _ hε, le_max_iff, abs_sub_comm, or_comm]

theorem tolerance_nonneg : (0 : ℚ) ≤ Quantity.tolerance := by
  show (0 : ℚ) ≤ (1 : ℕ) * 10 ^ (-12 : ℤ)
  positivity

theorem tolerance_le_closeTolerance : (Quantity.tolerance : ℚ) ≤ Quantity.closeTolerance := by
  show (1 : ℕ) * (10 : ℚ) ^ (-12 : ℤ) ≤ (1 : ℕ) * 10 ^ (-9 : ℤ)
  gcongr
  · exact Nat.one_le_ofNat
  · decide

/-- All comparisons of two amounts can be read off their place. -/
theorem comparisons_eq (a b : ℚ) {c : Ordering} (hc : place Quantity.tolerance a b = c) :
    (Scalar.lt a b && !Quantity.closeAmounts a b) = (c == .lt) ∧
      (Scalar.lt b a && !Quantity.closeAmounts a b) = (c == .gt) ∧
      (Scalar.lt a b || Quantity.closeAmounts a b) = (c != .gt) ∧
      (Scalar.lt b a || Quantity.closeAmounts a b) = (c != .lt) ∧
      Quantity.closeAmounts a b = (c == .eq) := by
  have hclose : Quantity.closeAmounts a b = true ↔ Close Quantity.tolerance a b :=
    isClose_iff tolerance_nonneg
  have hlt {x y : ℚ} (h : x < y) : Scalar.lt x y = true ∧ Scalar.lt y x = false :=
    ⟨lt_iff.mpr h, decide_eq_false h.not_gt⟩
  cases c with
  | eq => simp [hclose.mpr (place_eq_eq_iff.mp hc)]
  | lt =>
    obtain ⟨hab, hnot⟩ := place_eq_lt_iff.mp hc
    simp [hlt hab, Bool.eq_false_iff.mpr (mt hclose.mp hnot)]
  | gt =>
    obtain ⟨hba, hnot⟩ := (place_eq_gt_iff tolerance_nonneg).mp hc
    simp [hlt hba, Bool.eq_false_iff.mpr (mt hclose.mp (mt Close.symm hnot))]

variable {units : List (Unit ℚ)} {q p r : Quantity ℚ}

theorem toSI_eq (hunits : Uniform units) (hsi : MadeOf units .si) (hq : Convertible units q) :
    ∃ s, q.toSI = .ok s ∧ s.value = siAmount q := by
  obtain ⟨s, hs, _, hmatches⟩ := toUnits_matches hunits hq hsi
  refine ⟨s, hs, ?_⟩
  rw [hmatches.value, inUnits, hq.powers.shapeFactor_si, div_one]

theorem amounts_eq (hunits : Uniform units) (hsi : MadeOf units .si) (hq : Convertible units q)
    (hp : Convertible units p) (hdim : q.dim = p.dim) :
    q.amounts p = .ok (siAmount q, siAmount p) := by
  obtain ⟨s, hs, hvalue⟩ := toSI_eq hunits hsi hq
  obtain ⟨s', hs', hvalue'⟩ := toSI_eq hunits hsi hp
  rw [Quantity.amounts, Quantity.checkSameDim, if_pos (dim_eq_iff.mpr hdim), hs, hs', ← hvalue,
    ← hvalue']
  rfl

/-- The place of a quantity beside another of the same dimension: that of its SI amount, where
amounts within the tolerance of each other are in one place. -/
def placeOf (q p : Quantity ℚ) : Ordering :=
  place Quantity.tolerance (siAmount q) (siAmount p)

/-- The answers of the comparisons, for the place of a quantity beside another. -/
theorem answers_eq (hunits : Uniform units) (hsi : MadeOf units .si) (hq : Convertible units q)
    (hp : Convertible units p) (hdim : q.dim = p.dim) {c : Ordering} (hc : placeOf q p = c) :
    q.lt p = .ok (c == .lt) ∧ q.gt p = .ok (c == .gt) ∧ q.le p = .ok (c != .gt) ∧
      q.ge p = .ok (c != .lt) ∧ q.classify p = .ok c := by
  obtain ⟨hlt, hgt, hle, hge, _⟩ := comparisons_eq (siAmount q) (siAmount p) hc
  have hamounts := amounts_eq hunits hsi hq hp hdim
  have hqlt : q.lt p = .ok (c == .lt) := by
    rw [Quantity.lt, hamounts, ← hlt]
    rfl
  have hqgt : q.gt p = .ok (c == .gt) := by
    rw [Quantity.gt, hamounts, ← hgt]
    rfl
  refine ⟨hqlt, hqgt, ?_, ?_, ?_⟩
  · rw [Quantity.le, hamounts, ← hle]
    rfl
  · rw [Quantity.ge, hamounts, ← hge]
    rfl
  · rw [Quantity.classify, hqlt, hqgt]
    cases c <;> rfl

/-- Closeness compares SI amounts, too, if no tolerance is negative. -/
theorem isClose_eq (hunits : Uniform units) (hsi : MadeOf units .si) (hq : Convertible units q)
    (hp : Convertible units p) (hdim : q.dim = p.dim) (relative absolute : ℚ) :
    q.isClose p relative absolute =
      if relative < 0 ∨ absolute < 0 then .error (.breakdown .negativeTolerance)
      else .ok (Scalar.isClose relative absolute (siAmount q) (siAmount p)) := by
  obtain ⟨s, hs, hvalue⟩ := toSI_eq hunits hsi hq
  obtain ⟨s', hs', hvalue'⟩ := toSI_eq hunits hsi hp
  rw [Quantity.isClose, dim_eq_iff.mpr hdim, hs, hs', ← hvalue, ← hvalue']
  show (if Scalar.lt relative Scalar.zero || Scalar.lt absolute Scalar.zero then _ else _) = _
  simp only [Bool.or_eq_true, lt_iff, zero_eq]

theorem isClose_tolerance_eq (hunits : Uniform units) (hsi : MadeOf units .si)
    (hq : Convertible units q) (hp : Convertible units p) (hdim : q.dim = p.dim) {ε : ℚ}
    (hε : 0 ≤ ε) :
    q.isClose p ε Scalar.zero = .ok (decide (Close ε (siAmount q) (siAmount p))) := by
  rw [isClose_eq hunits hsi hq hp hdim, if_neg (by simpa using hε)]
  refine congrArg Except.ok ?_
  rw [Bool.eq_iff_iff, decide_eq_true_iff, isClose_iff hε]

theorem lt_eq_ok_true_iff (hunits : Uniform units) (hsi : MadeOf units .si)
    (hq : Convertible units q) (hp : Convertible units p) (hdim : q.dim = p.dim) :
    q.lt p = .ok true ↔ Below Quantity.tolerance (siAmount q) (siAmount p) := by
  obtain ⟨hlt, _⟩ := answers_eq hunits hsi hq hp hdim rfl
  rw [hlt, Except.ok.injEq, beq_iff_eq, placeOf, place_eq_lt_iff]

theorem lt_trans (hunits : Uniform units) (hsi : MadeOf units .si) (hq : Convertible units q)
    (hp : Convertible units p) (hr : Convertible units r) (hqp : q.dim = p.dim)
    (hpr : p.dim = r.dim) (hlt : q.lt p = .ok true) (hlt' : p.lt r = .ok true) :
    q.lt r = .ok true := by
  rw [lt_eq_ok_true_iff hunits hsi hq hp hqp] at hlt
  rw [lt_eq_ok_true_iff hunits hsi hp hr hpr] at hlt'
  rw [lt_eq_ok_true_iff hunits hsi hq hr (hqp.trans hpr)]
  exact hlt.trans tolerance_nonneg hlt'

theorem lt_self (hunits : Uniform units) (hsi : MadeOf units .si) (hq : Convertible units q) :
    q.lt q = .ok false := by
  have hplace : placeOf q q = .eq := place_eq_eq_iff.mpr (.self tolerance_nonneg _)
  exact (answers_eq hunits hsi hq hq rfl hplace).1

theorem lt_eq_gt (hunits : Uniform units) (hsi : MadeOf units .si) (hq : Convertible units q)
    (hp : Convertible units p) (hdim : q.dim = p.dim) : q.lt p = p.gt q := by
  obtain ⟨hlt, _⟩ := answers_eq hunits hsi hq hp hdim rfl
  obtain ⟨_, hgt, _⟩ := answers_eq hunits hsi hp hq hdim.symm (place_swap tolerance_nonneg)
  rw [hlt, hgt, ← placeOf]
  cases placeOf q p <;> rfl

/-- Quantities that are equal have values within the tolerance, and amounts, too. -/
theorem close_of_eq (hunits : Uniform units) (hq : Convertible units q) (hp : Convertible units p)
    (h : q.eq p = true) : Close Quantity.tolerance (siAmount q) (siAmount p) := by
  simp only [Quantity.eq, Bool.and_eq_true, dim_eq_iff] at h
  obtain ⟨⟨hdim, hunits'⟩, hvalue⟩ := h
  rw [siAmount, siAmount, hdim, shapeFactor_congr (factor_eq hunits hq.made hp.made hunits')]
  exact ((isClose_iff tolerance_nonneg).mp hvalue).mul_right
    (hp.powers.conversionFactor? (hp.made.positive hunits)).1

/-- Two pairs of quantities that no comparison can tell apart. -/
structure ComparedAlike (q p q' p' : Quantity ℚ) : Prop where
  lt : q'.lt p' = q.lt p
  le : q'.le p' = q.le p
  gt : q'.gt p' = q.gt p
  ge : q'.ge p' = q.ge p
  isClose : ∀ relative absolute, q'.isClose p' relative absolute = q.isClose p relative absolute
  classify : q'.classify p' = q.classify p

/-- The comparisons see the amounts only. -/
theorem comparedAlike_of_siAmount (hunits : Uniform units) (hsi : MadeOf units .si)
    {q' p' : Quantity ℚ} (hq : Convertible units q) (hp : Convertible units p)
    (hq' : Convertible units q') (hp' : Convertible units p') (hdim : q.dim = p.dim)
    (hdim' : q'.dim = p'.dim) (hqe : siAmount q' = siAmount q) (hpe : siAmount p' = siAmount p) :
    ComparedAlike q p q' p' := by
  have hplace : placeOf q' p' = placeOf q p := by rw [placeOf, placeOf, hqe, hpe]
  obtain ⟨hlt, hgt, hle, hge, hclassify⟩ := answers_eq hunits hsi hq hp hdim rfl
  obtain ⟨hlt', hgt', hle', hge', hclassify'⟩ := answers_eq hunits hsi hq' hp' hdim' hplace
  refine ⟨hlt'.trans hlt.symm, hle'.trans hle.symm, hgt'.trans hgt.symm, hge'.trans hge.symm,
    ?_, hclassify'.trans hclassify.symm⟩
  intro relative absolute
  rw [isClose_eq hunits hsi hq hp hdim, isClose_eq hunits hsi hq' hp' hdim', hqe, hpe]

/-- For all quantities of one dimension, in contexts made of units of which those that compare
equal have one factor, the SI units among them: exactly one of smaller, larger and close holds,
the one that the SI amounts say, and so does the class; the weak comparisons are the opposites of
the strict ones; the order is turned around with its operands, irreflexive and transitive; no
answer changes if the operands are expressed in other contexts; and what is equal is close.
Between quantities of different dimensions there is no order, and they are neither equal nor
close. -/
theorem comparisons_coherent (hunits : Uniform units) (hsi : MadeOf units .si)
    (hq : Convertible units q) (hp : Convertible units p) (hr : Convertible units r)
    (hqp : q.dim = p.dim) (hpr : p.dim = r.dim) :
    (q.classify p = .ok (placeOf q p) ∧ q.lt p = .ok (placeOf q p == .lt) ∧
      q.gt p = .ok (placeOf q p == .gt) ∧
      q.isClose p Quantity.tolerance Scalar.zero = .ok (placeOf q p == .eq)) ∧
    q.le p = (q.gt p).map not ∧ q.ge p = (q.lt p).map not ∧
    q.lt p = p.gt q ∧ q.lt q = .ok false ∧
    (q.lt p = .ok true → p.lt r = .ok true → q.lt r = .ok true) ∧
    (∀ a b, MadeOf units a → MadeOf units b →
      ∃ q' p', q.toUnits a = .ok q' ∧ p.toUnits b = .ok p' ∧ ComparedAlike q p q' p') ∧
    (q.eq p = true → q.le p = .ok true ∧ q.ge p = .ok true ∧
      q.isClose p Quantity.closeTolerance Scalar.zero = .ok true) ∧
    ∀ q p : Quantity ℚ, q.dim.eq p.dim = false →
      q.lt p = .error (.dimension (.mismatch .compare q p)) ∧
      q.le p = .error (.dimension (.mismatch .compare q p)) ∧
      q.gt p = .error (.dimension (.mismatch .compare q p)) ∧
      q.ge p = .error (.dimension (.mismatch .compare q p)) ∧
      q.eq p = false ∧ ∀ relative absolute, q.isClose p relative absolute = .ok false := by
  obtain ⟨hlt, hgt, hle, hge, hclassify⟩ := answers_eq hunits hsi hq hp hqp rfl
  refine ⟨⟨hclassify, hlt, hgt, ?_⟩, ?_, ?_, lt_eq_gt hunits hsi hq hp hqp,
    lt_self hunits hsi hq, lt_trans hunits hsi hq hp hr hqp hpr, ?_, ?_,
    fun q p => Quantity.mismatch_of_dim_ne⟩
  · rw [isClose_tolerance_eq hunits hsi hq hp hqp tolerance_nonneg, Except.ok.injEq,
      Bool.eq_iff_iff, decide_eq_true_iff, beq_iff_eq, placeOf, place_eq_eq_iff]
  · rw [hle, hgt]
    rfl
  · rw [hge, hlt]
    rfl
  · intro a b ha hb
    obtain ⟨q', hq', hconvertible, hmatches⟩ := toUnits_matches hunits hq ha
    obtain ⟨p', hp', hconvertible', hmatches'⟩ := toUnits_matches hunits hp hb
    have hdim : q'.dim = p'.dim := (hmatches.dim.trans hqp).trans hmatches'.dim.symm
    exact ⟨q', p', hq', hp', comparedAlike_of_siAmount hunits hsi hq hp hconvertible hconvertible'
      hqp hdim (siAmount_toUnits hunits hq ha hq') (siAmount_toUnits hunits hp hb hp')⟩
  · intro heq
    have hclose := close_of_eq hunits hq hp heq
    obtain ⟨_, _, hle, hge, _⟩ := answers_eq hunits hsi hq hp hqp (place_eq_eq_iff.mpr hclose)
    refine ⟨hle, hge, ?_⟩
    rw [isClose_tolerance_eq hunits hsi hq hp hqp
      (tolerance_nonneg.trans tolerance_le_closeTolerance)]
    exact congrArg Except.ok (decide_eq_true (hclose.mono tolerance_le_closeTolerance))

end Comparisons

/-! ## Three speeds -/

/-- The speed `3 mi/h` is below `5 ft/s`, and this is below `4 mi/h`. -/
theorem comparisons_coherent_speeds :
    letI := noFunctions
    let slow := threeMilesPerHour
    let middle : Quantity ℚ := ⟨5, slow.dim, ⟨foot, .kilogram, .second⟩⟩
    let fast : Quantity ℚ := ⟨4, slow.dim, ⟨mile "mile", .kilogram, hour⟩⟩
    slow.lt fast = .ok true ∧ middle.ge fast = (middle.lt fast).map not ∧
      ∃ slow' middle', slow.toUnits .si = .ok slow' ∧ middle.toUnits fast.units = .ok middle' ∧
        slow'.lt middle' = .ok true := by
  let _ := noFunctions
  intro slow middle fast
  have hsi : MadeOf speedUnits .si :=
    madeOf_speedUnits (by simp [speedUnits]) (by simp [speedUnits])
  have hpowers : HasPowers slow.dim := hasPowers_wholeDim ⟨1, 0, -1⟩
  have hslow : Convertible speedUnits slow :=
    ⟨hpowers, madeOf_speedUnits (by simp [speedUnits]) (by simp [speedUnits])⟩
  have hmiddle : Convertible speedUnits middle :=
    ⟨hpowers, madeOf_speedUnits (by simp [speedUnits]) (by simp [speedUnits])⟩
  have hfast : Convertible speedUnits fast :=
    ⟨hpowers, madeOf_speedUnits (by simp [speedUnits]) (by simp [speedUnits])⟩
  obtain ⟨_, hbelow, rfl⟩ : ∃ b, slow.lt middle = .ok b ∧ b = true :=
    exists_of_returns (by decide +kernel : returns _ id = true)
  obtain ⟨_, hbelow', rfl⟩ : ∃ b, middle.lt fast = .ok b ∧ b = true :=
    exists_of_returns (by decide +kernel : returns _ id = true)
  obtain ⟨_, _, _, _, _, htrans, halike, _⟩ :=
    comparisons_coherent uniform_speedUnits hsi hslow hmiddle hfast rfl rfl
  obtain ⟨_, _, hge, _⟩ := comparisons_coherent uniform_speedUnits hsi hmiddle hfast hfast rfl rfl
  obtain ⟨slow', middle', hslow', hmiddle', hsame⟩ := halike .si fast.units hsi hfast.made
  exact ⟨htrans hbelow hbelow', hge, slow', middle', hslow', hmiddle', hsame.lt.trans hbelow⟩

end Exact

end UnitCalc
