import Mathlib
import UnitCalc.Proofs.Number.Sign

/-!
# Exact values of doubles as rational numbers

A finite double is a rational number: its mantissa times a power of two, with its sign. Doubles
are in the order of these numbers, because a larger exponent goes with a full mantissa; so what is
known of the numbers decides how doubles compare.
-/

namespace UnitCalc.Number

open Float.Model
open UnpackedFloat (Sign unpackSign unpackExponent unpackMantissa)

/-! ## Values -/

namespace Binary

/-- The magnitude of a value. -/
def magnitude (b : Binary) : ℚ := b.mantissa * 2 ^ b.exponent

/-- The value as a rational number. -/
def value (b : Binary) : ℚ := if b.negative then -b.magnitude else b.magnitude

/-- How the values of doubles are written: with no more digits than fit, and with all of them
unless the exponent is the least one. -/
structure Canonical (b : Binary) : Prop where
  mantissa_lt : b.mantissa < 2 * fullMantissa
  least : leastExponent ≤ b.exponent
  full : leastExponent < b.exponent → fullMantissa ≤ b.mantissa

theorem canonical_of_ofFloat? {x : Float} {b : Binary} (h : ofFloat? x = some b) : Canonical b := by
  have hmod : x.toBits.toNat % fullMantissa < fullMantissa := Nat.mod_lt _ (by decide)
  unfold ofFloat? at h
  simp only at h
  split at h
  · cases h
  · obtain rfl := Option.some.inj h
    refine ⟨?_, Int.le_refl _, fun hlt => absurd hlt (Int.lt_irrefl _)⟩
    show x.toBits.toNat % fullMantissa < 2 * fullMantissa
    omega
  · obtain rfl := Option.some.inj h
    refine ⟨?_, ?_, fun _ => Nat.le_add_right _ _⟩
    · show fullMantissa + x.toBits.toNat % fullMantissa < 2 * fullMantissa
      omega
    · exact Int.le_add_of_nonneg_right (Int.natCast_nonneg _)

theorem magnitude_nonneg (b : Binary) : 0 ≤ b.magnitude := by
  unfold magnitude
  positivity

theorem magnitude_pos {b : Binary} (h : b.mantissa ≠ 0) : 0 < b.magnitude := by
  have hpos : (0 : ℚ) < b.mantissa := by exact_mod_cast Nat.pos_of_ne_zero h
  exact mul_pos hpos (zpow_pos (by norm_num) _)

/-- A larger exponent has a larger value, whatever the mantissas. -/
theorem magnitude_lt_of_exponent_lt {a b : Binary} (ha : Canonical a) (hb : Canonical b)
    (h : a.exponent < b.exponent) : a.magnitude < b.magnitude := by
  have hmantissa : (a.mantissa : ℚ) < 2 * fullMantissa := by exact_mod_cast ha.mantissa_lt
  have hfull : (fullMantissa : ℚ) ≤ b.mantissa := by
    exact_mod_cast hb.full (Int.lt_of_le_of_lt ha.least h)
  have hpower : (0 : ℚ) < 2 ^ a.exponent := zpow_pos (by norm_num) _
  calc (a.mantissa : ℚ) * 2 ^ a.exponent
      < 2 * fullMantissa * 2 ^ a.exponent := mul_lt_mul_of_pos_right hmantissa hpower
    _ = fullMantissa * 2 ^ (a.exponent + 1) := by
      rw [zpow_add_one₀ (by norm_num : (2 : ℚ) ≠ 0)]
      ring
    _ ≤ fullMantissa * 2 ^ b.exponent :=
      mul_le_mul_of_nonneg_left (zpow_le_zpow_right₀ (by norm_num) h) (Nat.cast_nonneg _)
    _ ≤ b.mantissa * 2 ^ b.exponent :=
      mul_le_mul_of_nonneg_right hfull (zpow_pos (by norm_num) _).le

/-- Magnitudes compare as their exponents do, and then as their mantissas. -/
theorem compare_magnitude {a b : Binary} (ha : Canonical a) (hb : Canonical b) :
    (compare a.exponent b.exponent).then (compare a.mantissa b.mantissa) =
      compare a.magnitude b.magnitude := by
  rcases lt_trichotomy a.exponent b.exponent with h | h | h
  · rw [compare_lt_iff_lt.mpr h, compare_lt_iff_lt.mpr (magnitude_lt_of_exponent_lt ha hb h)]
    rfl
  · have hpower : (0 : ℚ) < 2 ^ b.exponent := zpow_pos (by norm_num) _
    rw [compare_eq_iff_eq.mpr h]
    show compare a.mantissa b.mantissa = compare a.magnitude b.magnitude
    unfold magnitude
    rw [h]
    rcases lt_trichotomy a.mantissa b.mantissa with hm | hm | hm
    · rw [compare_lt_iff_lt.mpr hm, eq_comm, compare_lt_iff_lt]
      exact mul_lt_mul_of_pos_right (by exact_mod_cast hm) hpower
    · rw [compare_eq_iff_eq.mpr hm, hm, compare_eq_iff_eq.mpr rfl]
    · rw [compare_gt_iff_gt.mpr hm, eq_comm, compare_gt_iff_gt]
      exact mul_lt_mul_of_pos_right (by exact_mod_cast hm) hpower
  · rw [compare_gt_iff_gt.mpr h, compare_gt_iff_gt.mpr (magnitude_lt_of_exponent_lt hb ha h)]
    rfl

/-- The value of a whole number is that number. -/
theorem value_of_toInt? {b : Binary} {n : ℤ} (h : b.toInt? = some n) : b.value = n := by
  have hfraction : b.magnitude = b.fraction.1 / b.fraction.2 := by
    unfold magnitude fraction
    split
    · rename_i hexponent
      obtain ⟨k, hk⟩ := Int.eq_ofNat_of_zero_le hexponent
      simp [hk]
    · rename_i hexponent
      obtain ⟨k, hk⟩ := Int.eq_ofNat_of_zero_le (show 0 ≤ -b.exponent by omega)
      rw [show b.exponent = -k by omega]
      simp [div_eq_mul_inv]
  unfold toInt? at h
  simp only at h
  split at h
  · rename_i hmod
    have hden : (b.fraction.2 : ℚ) ≠ 0 := by
      unfold fraction
      split <;> simp
    have hquotient : b.magnitude = (b.fraction.1 / b.fraction.2 : ℕ) := by
      rw [hfraction, Nat.cast_div (Nat.dvd_of_mod_eq_zero hmod) hden]
    have hn := Option.some.inj h
    unfold value
    rw [hquotient, ← hn]
    split <;> push_cast <;> rfl
  · cases h

end Binary

/-- The exact value of a double, if it is finite. -/
def value? (x : Float) : Option ℚ := (Binary.ofFloat? x).map Binary.value

/-! ## Values of unpacked numbers -/

/-- What an unpacked number is as an exact value. -/
def binary? : UnpackedFloat → Option Binary
  | .zero s => some ⟨s.toBitVec.toNat == 1, 0, Binary.leastExponent⟩
  | .finite s m e _ => some ⟨s.toBitVec.toNat == 1, m, e⟩
  | _ => none

section Unpacked

variable {bits : BitVec double.numBits}

theorem unpack_subnormal (hzero : unpackExponent bits = 0#_)
    (hmantissa : unpackMantissa bits ≠ 0#_) :
    binary? (UnpackedFloat.unpack double bits) =
      some ⟨(unpackSign bits).toNat == 1, (unpackMantissa bits).toNat, Binary.leastExponent⟩ := by
  have hones : unpackExponent bits ≠ -1#_ := by
    rw [hzero]
    decide
  have hexponent : unbiased (unpackExponent bits).toNat + 1 = Binary.leastExponent := by
    rw [hzero]
    rfl
  unfold UnpackedFloat.unpack
  extract_lets
  rw [if_neg hones, if_pos hzero, dif_neg hmantissa]
  show some (Binary.mk ((Sign.ofBitVec (unpackSign bits)).toBitVec.toNat == 1) _
    (unbiased (unpackExponent bits).toNat + 1)) = _
  rw [hexponent, Sign.toBitVec_ofBitVec]

/-- A normal number has a leading bit that is not in its field. -/
theorem unpack_normal (hzero : unpackExponent bits ≠ 0#_) (hones : unpackExponent bits ≠ -1#_) :
    binary? (UnpackedFloat.unpack double bits) =
      some ⟨(unpackSign bits).toNat == 1, Binary.fullMantissa + (unpackMantissa bits).toNat,
        unbiased (unpackExponent bits).toNat⟩ := by
  have hleading : (1#1 ++ unpackMantissa bits).toNat =
      Binary.fullMantissa + (unpackMantissa bits).toNat := by
    have hlt : (unpackMantissa bits).toNat < 2 ^ 52 := (unpackMantissa bits).isLt
    rw [BitVec.toNat_append]
    exact (Nat.shiftLeft_add_eq_or_of_lt hlt 1).symm
  unfold UnpackedFloat.unpack
  extract_lets
  rw [if_neg hones, if_neg hzero]
  show some (Binary.mk ((Sign.ofBitVec (unpackSign bits)).toBitVec.toNat == 1)
    (1#1 ++ unpackMantissa bits).toNat (unbiased (unpackExponent bits).toNat)) = _
  rw [hleading, Sign.toBitVec_ofBitVec]

end Unpacked

/-- The exact value of a double is read off what it is unpacked to. -/
theorem ofFloat?_eq_binary? (x : Float) : Binary.ofFloat? x = binary? x.toModel.unpack := by
  have hsign : (x.toBits.toNat / Nat.pow 2 63 == 1) = ((unpackSign (packed x)).toNat == 1) := by
    rw [toNat_sign]
    rfl
  have hexponent := toNat_unpackExponent x
  have hmantissa := toNat_unpackMantissa x
  show _ = binary? (UnpackedFloat.unpack double (packed x))
  unfold Binary.ofFloat?
  simp only [hsign, Binary.fullMantissa, ← hexponent, ← hmantissa]
  generalize packed x = bits
  split
  · rename_i hones
    have hinfinite := isFinite_unpack_of_ones (BitVec.eq_of_toNat_eq (y := -1#_) hones)
    cases hunpack : UnpackedFloat.unpack double bits with
    | infinity | notANumber => rfl
    | zero | finite =>
      rw [hunpack] at hinfinite
      cases hinfinite
  · rename_i hzero
    have hzero' := BitVec.eq_of_toNat_eq (y := 0#_) hzero
    by_cases hm : unpackMantissa bits = 0#_
    · rw [unpack_of_zero hzero' hm, binary?, hm, Sign.toBitVec_ofBitVec]
      rfl
    · rw [unpack_subnormal hzero' hm]
  · rename_i e hnot he
    have hzero : unpackExponent bits ≠ 0#_ := by
      intro hzero
      rw [hzero] at he
      cases he
    have hones : unpackExponent bits ≠ -1#_ := by
      intro hones
      rw [hones] at he
      exact hnot (Nat.succ.inj he).symm
    have hexponent : unbiased (unpackExponent bits).toNat = Binary.leastExponent + e := by
      rw [he]
      show ((e + 1 : ℕ) : ℤ) - (1023 + 52) = -1074 + e
      omega
    rw [unpack_normal hzero hones, hexponent]
    rfl

/-! ## Comparison -/

theorem compare_neg (p q : ℚ) : compare (-p) (-q) = (compare p q).swap := by
  rcases lt_trichotomy p q with h | h | h
  · rw [compare_lt_iff_lt.mpr h, compare_gt_iff_gt.mpr (neg_lt_neg h)]
    rfl
  · rw [h, compare_eq_iff_eq.mpr rfl, compare_eq_iff_eq.mpr rfl]
    rfl
  · rw [compare_gt_iff_gt.mpr h, compare_lt_iff_lt.mpr (neg_lt_neg h)]
    rfl

theorem value_zero {s : Sign} {a : Binary} (h : binary? (.zero s) = some a) : a.value = 0 := by
  obtain rfl := Option.some.inj h
  simp [Binary.value, Binary.magnitude]

/-- The value of a finite number that is not zero. -/
theorem value_finite {s : Sign} {m : ℕ} {e : ℤ} {hm : 0 < m} {a : Binary}
    (h : binary? (.finite s m e hm) = some a) :
    a.mantissa = m ∧ a.exponent = e ∧ 0 < a.magnitude ∧
      a.value = match s with
        | .negative => -a.magnitude
        | .positive => a.magnitude := by
  obtain rfl := Option.some.inj h
  refine ⟨rfl, rfl, Binary.magnitude_pos (Nat.pos_iff_ne_zero.mp hm), ?_⟩
  cases s <;> rfl

/-- Unpacked numbers compare as their values do. -/
theorem compare_unpacked {u v : UnpackedFloat} {a b : Binary} (hu : binary? u = some a)
    (hv : binary? v = some b) (ha : a.Canonical) (hb : b.Canonical) :
    u.compare v = some (compare a.value b.value) := by
  have hcompare := Binary.compare_magnitude ha hb
  cases u with
  | infinity | notANumber => cases hu
  | zero s =>
    rw [value_zero hu]
    cases v with
    | infinity | notANumber => cases hv
    | zero t =>
      rw [value_zero hv, compare_eq_iff_eq.mpr rfl]
      rfl
    | finite t n f hn =>
      obtain ⟨_, _, hpos, hvalue⟩ := value_finite hv
      rw [hvalue]
      cases t with
      | negative =>
        rw [compare_gt_iff_gt.mpr (neg_lt_zero.mpr hpos)]
        rfl
      | positive =>
        rw [compare_lt_iff_lt.mpr hpos]
        rfl
  | finite s m e hm =>
    obtain ⟨rfl, rfl, hpos, hvalue⟩ := value_finite hu
    rw [hvalue]
    cases v with
    | infinity | notANumber => cases hv
    | zero t =>
      rw [value_zero hv]
      cases s with
      | negative =>
        rw [compare_lt_iff_lt.mpr (neg_lt_zero.mpr hpos)]
        rfl
      | positive =>
        rw [compare_gt_iff_gt.mpr hpos]
        rfl
    | finite t n f hn =>
      obtain ⟨rfl, rfl, hpos', hvalue'⟩ := value_finite hv
      rw [hvalue']
      cases s with
      | negative =>
        cases t with
        | negative =>
          rw [compare_neg, ← hcompare]
          rfl
        | positive =>
          rw [compare_lt_iff_lt.mpr (by linarith : -a.magnitude < b.magnitude)]
          rfl
      | positive =>
        cases t with
        | negative =>
          rw [compare_gt_iff_gt.mpr (by linarith : -b.magnitude < a.magnitude)]
          rfl
        | positive =>
          rw [← hcompare]
          rfl

section Doubles

variable {x y : Float} {p q : ℚ}

theorem compare_of_value? (hx : value? x = some p) (hy : value? y = some q) :
    x.toModel.unpack.compare y.toModel.unpack = some (compare p q) := by
  obtain ⟨a, ha, rfl⟩ := Option.map_eq_some_iff.mp hx
  obtain ⟨b, hb, rfl⟩ := Option.map_eq_some_iff.mp hy
  exact compare_unpacked (ofFloat?_eq_binary? x ▸ ha) (ofFloat?_eq_binary? y ▸ hb)
    (Binary.canonical_of_ofFloat? ha) (Binary.canonical_of_ofFloat? hb)

theorem lt_iff_of_value? (hx : value? x = some p) (hy : value? y = some q) :
    Scalar.lt x y = true ↔ p < q := by
  have hlt : Scalar.lt x y = true ↔ x.toModel.unpack.lt y.toModel.unpack = true := by
    show decide (decide (x.toModel.unpack.lt y.toModel.unpack = true) = true) = true ↔ _
    rw [decide_eq_true_iff, decide_eq_true_iff]
  rw [hlt, UnpackedFloat.lt, compare_of_value? hx hy, beq_iff_eq, Option.some.injEq,
    compare_lt_iff_lt]

theorem eq_iff_of_value? (hx : value? x = some p) (hy : value? y = some q) :
    Scalar.eq x y = true ↔ p = q := by
  show x.toModel.unpack.beq y.toModel.unpack = true ↔ _
  rw [UnpackedFloat.beq, compare_of_value? hx hy, beq_iff_eq, Option.some.injEq,
    compare_eq_iff_eq]

theorem isNaN_of_ofFloat? {a : Binary} (ha : Binary.ofFloat? x = some a) : x.isNaN = false := by
  rw [ofFloat?_eq_binary?] at ha
  show x.toModel.unpack.isNaN = false
  cases hunpack : x.toModel.unpack with
  | notANumber =>
    rw [hunpack] at ha
    cases ha
  | infinity | zero | finite => rfl

/-- A whole double has the value of its integer. -/
theorem value?_of_toInt? {n : ℤ} (h : toInt? x = some n) : value? x = some (n : ℚ) := by
  obtain ⟨b, hb, hn⟩ := Option.bind_eq_some_iff.mp h
  rw [value?, hb, Option.map_some, Binary.value_of_toInt? hn]

variable {m n : ℤ}

/-- Whole doubles compare as their integers do. -/
theorem lt_iff_of_toInt? (hx : Scalar.toInt? x = some m) (hy : Scalar.toInt? y = some n) :
    Scalar.lt x y = true ↔ m < n := by
  rw [lt_iff_of_value? (value?_of_toInt? hx) (value?_of_toInt? hy), Int.cast_lt]

theorem eq_iff_of_toInt? (hx : Scalar.toInt? x = some m) (hy : Scalar.toInt? y = some n) :
    Scalar.eq x y = true ↔ m = n := by
  rw [eq_iff_of_value? (value?_of_toInt? hx) (value?_of_toInt? hy), Int.cast_inj]

theorem toInt?_neg (hx : Scalar.toInt? x = some m) : Scalar.toInt? (Scalar.neg x) = some (-m) := by
  obtain ⟨a, ha, hm⟩ := Option.bind_eq_some_iff.mp hx
  show (Binary.ofFloat? (-x)).bind Binary.toInt? = some (-m)
  rw [Double.ofFloat?_neg (isNaN_of_ofFloat? ha), ha, Option.map_some, Option.bind_some]
  have hfraction : (Double.negated a).fraction = a.fraction := rfl
  unfold Binary.toInt? at hm ⊢
  rw [hfraction]
  simp only at hm ⊢
  split at hm
  · rename_i hwhole
    rw [if_pos hwhole, ← Option.some.inj hm]
    show some (if (!a.negative) = true then _ else _) = _
    cases a.negative <;> simp
  · cases hm

end Doubles

/-! ## Results that need no rounding -/

section Exact

open UnpackedFloat (ExtendedMantissa shiftToTargetExponent roundWithAccuracy)

variable {m k : ℕ} {e : ℤ} {s : Sign} {b : Binary}

theorem log2_mul_two_pow (hm : m ≠ 0) (k : ℕ) : (m * 2 ^ k).log2 = m.log2 + k := by
  induction k with
  | zero => rw [pow_zero, mul_one, add_zero]
  | succ k ih =>
    have hne : m * 2 ^ k ≠ 0 := mul_ne_zero hm (pow_ne_zero k two_ne_zero)
    rw [pow_succ, ← mul_assoc, mul_comm (m * 2 ^ k) 2, Nat.log2_two_mul hne, ih, add_assoc]

/-- Zeros are shifted out without a trace. -/
theorem shiftRight_exact (m k : ℕ) :
    ExtendedMantissa.mk (m * 2 ^ k) false false >>> k = ⟨m, false, false⟩ := by
  induction k generalizing m with
  | zero =>
    rw [pow_zero, mul_one]
    rfl
  | succ k ih =>
    show ((ExtendedMantissa.mk (m * 2 ^ (k + 1)) false false) >>> k).shiftRightOne = _
    rw [pow_succ, mul_comm (2 ^ k) 2, ← mul_assoc, ih (m * 2)]
    simp [ExtendedMantissa.shiftRightOne]

theorem targetExponent_eq (hb : b.Canonical) (hne : b.mantissa ≠ 0) :
    double.targetExponent (totalExponent b.mantissa b.exponent) = b.exponent := by
  have hle : b.mantissa.log2 ≤ 52 := by
    have hlt := (Nat.log2_lt hne).mpr (show b.mantissa < 2 ^ 53 from hb.mantissa_lt)
    omega
  have hleast : -1074 ≤ b.exponent := hb.least
  show max (b.mantissa.log2 + 1 + b.exponent - 53) (-1074) = b.exponent
  rcases hleast.eq_or_lt with heq | hlt
  · omega
  · have hfull := (Nat.le_log2 hne).mpr (show 2 ^ 52 ≤ b.mantissa from hb.full hlt)
    omega

/-- A value with zeros behind it has to be shifted by as many places. -/
theorem shiftToTargetExponent_exact (hb : b.Canonical) (hne : b.mantissa ≠ 0) (k : ℕ) :
    shiftToTargetExponent double (b.mantissa * 2 ^ k) (b.exponent - k) .exact =
      (⟨b.mantissa, false, false⟩, b.exponent) := by
  have htotal : totalExponent (b.mantissa * 2 ^ k) (b.exponent - k) =
      totalExponent b.mantissa b.exponent := by
    show ((b.mantissa * 2 ^ k).log2 : ℤ) + 1 + (b.exponent - k) =
      b.mantissa.log2 + 1 + b.exponent
    rw [log2_mul_two_pow hne]
    push_cast
    ring
  unfold shiftToTargetExponent UnpackedFloat.shiftToExponent
  simp only
  rw [htotal, targetExponent_eq hb hne, show (b.exponent - (b.exponent - k)).toNat = k by omega]
  show (ExtendedMantissa.mk (b.mantissa * 2 ^ k) false false >>> k, b.exponent - k + k) = _
  rw [shiftRight_exact, sub_add_cancel]

theorem roundWithAccuracy_exact (hb : b.Canonical) (hpos : 0 < b.mantissa) (s : Sign) (k : ℕ) :
    roundWithAccuracy double s (b.mantissa * 2 ^ k) (b.exponent - k) .exact =
      .finite s b.mantissa b.exponent hpos := by
  have hne := Nat.pos_iff_ne_zero.mp hpos
  have hagain := shiftToTargetExponent_exact hb hne 0
  rw [pow_zero, mul_one, Nat.cast_zero, sub_zero] at hagain
  unfold roundWithAccuracy
  rw [shiftToTargetExponent_exact hb hne k]
  show (match shiftToTargetExponent double b.mantissa b.exponent .exact with
    | (final, exponent) => if h : final.mantissa = 0 then UnpackedFloat.zero s
      else .finite s final.mantissa exponent (Nat.pos_of_ne_zero h)) = _
  rw [hagain]
  exact dif_neg hne

theorem unpack_one : (Scalar.ofDecimal 1 0 : Float).toModel.unpack =
    .finite .positive (2 ^ 52) (-52) (by decide) := by
  rfl

theorem mul_unpack_one {x : Float} (h : x.isFinite = true) :
    UnpackedFloat.mul double x.toModel.unpack (Scalar.ofDecimal 1 0 : Float).toModel.unpack =
      x.toModel.unpack := by
  have hfits := fits_of_isFinite h
  have hvalue := ofFloat?_eq_binary? x
  rw [unpack_one]
  cases hunpack : x.toModel.unpack with
  | infinity | notANumber =>
    rw [hunpack] at hfits
    exact hfits.elim
  | zero s => cases s <;> rfl
  | finite s m e hm =>
    rw [hunpack, binary?] at hvalue
    have hrounded := roundWithAccuracy_exact (Binary.canonical_of_ofFloat? hvalue) hm s 52
    have hsign : s * .positive = s := by cases s <;> rfl
    show roundWithAccuracy double (s * .positive) (m * 2 ^ 52) (e + -52) .exact = _
    rw [hsign]
    exact hrounded

/-- A finite double times one is that double. -/
theorem mul_one_eq {x : Float} (h : x.isFinite = true) : x * Scalar.ofDecimal 1 0 = x := by
  apply eq_of_unpack
  show UnpackedFloat.unpack double (UnpackedFloat.pack double (UnpackedFloat.mul double
    x.toModel.unpack (Scalar.ofDecimal 1 0 : Float).toModel.unpack)) = _
  rw [mul_unpack_one h]
  exact unpack_pack_unpack (packed x)

end Exact

end UnitCalc.Number
