import UnitCalc.Proofs.Number.Value

/-!
# Nearest doubles

A double that is no power of two is at least one unit in the last place away from every other: a
double with a smaller exponent has a smaller value than the least full mantissa, and all others
are multiples of that unit. So a double within half a unit of a number is one of the nearest.
-/

namespace UnitCalc.Number

variable {x : Float} {a b : Binary} {q : ℚ}

/-- No double is nearer to a number. -/
def IsNearest (x : Float) (q : ℚ) : Prop :=
  ∃ v, value? x = some v ∧ ∀ y w, value? y = some w → |v - q| ≤ |w - q|

namespace Binary

/-- Within half a unit in the last place, above a power of two. -/
def IsWithinHalf (b : Binary) (q : ℚ) : Prop :=
  b.negative = false ∧ fullMantissa < b.mantissa ∧ 2 * |b.value - q| ≤ 2 ^ b.exponent

instance : Decidable (IsWithinHalf b q) :=
  inferInstanceAs (Decidable (b.negative = false ∧ fullMantissa < b.mantissa ∧
    2 * |b.value - q| ≤ 2 ^ b.exponent))

/-- The value is a whole number of units of any smaller place. -/
theorem value_eq_mul {e : ℤ} (h : e ≤ a.exponent) : ∃ k : ℤ, a.value = k * 2 ^ e := by
  obtain ⟨d, hd⟩ := Int.eq_ofNat_of_zero_le (Int.sub_nonneg_of_le h)
  have hmagnitude : a.magnitude = (a.mantissa * 2 ^ d : ℤ) * 2 ^ e := by
    rw [magnitude, show a.exponent = d + e by omega, zpow_add₀ (by norm_num), zpow_natCast]
    push_cast
    ring
  unfold value
  split
  · exact ⟨-(a.mantissa * 2 ^ d), by rw [hmagnitude]; push_cast; ring⟩
  · exact ⟨a.mantissa * 2 ^ d, hmagnitude⟩

/-- A different value is at least one unit in the last place away. -/
theorem unit_le_abs_sub (ha : a.Canonical) (hsign : b.negative = false)
    (hfull : fullMantissa < b.mantissa) (hne : a.value ≠ b.value) :
    2 ^ b.exponent ≤ |a.value - b.value| := by
  have hunit : (0 : ℚ) < 2 ^ b.exponent := zpow_pos (by norm_num) _
  have hb : b.value = b.mantissa * 2 ^ b.exponent := by
    rw [value, hsign]
    rfl
  rcases le_or_gt b.exponent a.exponent with hle | hlt
  · obtain ⟨k, hk⟩ := value_eq_mul hle
    have hdiff : a.value - b.value = (k - b.mantissa : ℤ) * 2 ^ b.exponent := by
      rw [hk, hb]
      push_cast
      ring
    have hnonzero : k - b.mantissa ≠ 0 := by
      intro hzero
      rw [hzero, Int.cast_zero, zero_mul] at hdiff
      exact hne (sub_eq_zero.mp hdiff)
    have hone : (1 : ℚ) ≤ |((k - b.mantissa : ℤ) : ℚ)| := by
      exact_mod_cast Int.one_le_abs hnonzero
    rw [hdiff, abs_mul, abs_of_pos hunit]
    exact le_mul_of_one_le_left hunit.le hone
  · have hmagnitude : |a.value| = a.magnitude := by
      unfold value
      split
      · rw [abs_neg, abs_of_nonneg a.magnitude_nonneg]
      · exact abs_of_nonneg a.magnitude_nonneg
    have hsmall : a.magnitude < fullMantissa * 2 ^ b.exponent := by
      -- the least full mantissa one place up is larger
      have hleast : Canonical ⟨false, fullMantissa, b.exponent⟩ :=
        ⟨show fullMantissa < 2 * fullMantissa by decide, (ha.least.trans_lt hlt).le,
          fun _ => le_rfl⟩
      exact magnitude_lt_of_exponent_lt ha hleast hlt
    have hmantissa : (fullMantissa : ℚ) + 1 ≤ b.mantissa := by exact_mod_cast hfull
    have hlarge : (fullMantissa + 1) * 2 ^ b.exponent ≤ b.value := by
      rw [hb]
      exact mul_le_mul_of_nonneg_right hmantissa hunit.le
    have hle : a.value ≤ a.magnitude := hmagnitude ▸ le_abs_self _
    rw [abs_sub_comm]
    refine le_trans ?_ (le_abs_self _)
    linarith

end Binary

/-- A double within half a unit of a number is nearest to it. -/
theorem isNearest_of_isWithinHalf (hb : Binary.ofFloat? x = some b) (h : b.IsWithinHalf q) :
    IsNearest x q := by
  obtain ⟨hsign, hfull, hhalf⟩ := h
  refine ⟨b.value, by rw [value?, hb, Option.map_some], fun y w hw => ?_⟩
  obtain ⟨a, ha, rfl⟩ := Option.map_eq_some_iff.mp hw
  by_cases hsame : a.value = b.value
  · rw [hsame]
  · have hunit := Binary.unit_le_abs_sub (Binary.canonical_of_ofFloat? ha) hsign hfull hsame
    have htriangle : |a.value - b.value| ≤ |a.value - q| + |b.value - q| := by
      rw [abs_sub_comm b.value q]
      exact abs_sub_le _ _ _
    linarith

end UnitCalc.Number
