import UnitCalc.Number.Double
import UnitCalc.Proofs.Evaluator.Guarded

/-!
# Finite doubles

A double is finite unless the bits of its exponent are all ones. The sign and the magnitude of
a finite double are finite, and so is the remainder by one that is not zero. Logarithms and
the gamma function are the platform's, and that their results are finite has to be given.
-/

namespace UnitCalc.Number

open Float.Model

/-! ## Packing -/

/-- The format of doubles. -/
abbrev double : Format := Format.binary64

/-- An exponent as a double holds it. -/
def biased (e : Int) : Nat :=
  (e + double.exponentBias + double.mantissaBitsWithoutImplicit).toNat

/-- The exponent that is unpacked from a biased one. -/
def unbiased (n : Nat) : Int :=
  n - (double.exponentBias + double.mantissaBitsWithoutImplicit)

theorem biased_unbiased (n : Nat) : biased (unbiased n) = n := by
  unfold biased unbiased
  omega

/-- A number whose exponent has room in a double. -/
def Fits : UnpackedFloat → Prop
  | .zero _ => True
  | .finite _ _ e _ => biased e < 2047
  | _ => False

/-! ### Fields -/

theorem toNat_exponent (bits : BitVec double.numBits) :
    (UnpackedFloat.unpackExponent bits).toNat = bits.toNat / Nat.pow 2 52 % 2048 := by
  rw [UnpackedFloat.unpackExponent, BitVec.toNat_cast, BitVec.extractLsb_toNat,
    Nat.shiftRight_eq_div_pow]
  rfl

theorem toNat_mantissa (bits : BitVec double.numBits) :
    (UnpackedFloat.unpackMantissa bits).toNat = bits.toNat % Nat.pow 2 52 := by
  rw [UnpackedFloat.unpackMantissa, BitVec.toNat_cast, BitVec.extractLsb_toNat,
    Nat.shiftRight_zero]
  rfl

/-! ### What is finite -/

section Unpacked

variable {bits : BitVec double.numBits}

theorem isFinite_unpack_of_ones (hones : UnpackedFloat.unpackExponent bits = -1#_) :
    (UnpackedFloat.unpack double bits).isFinite = false := by
  unfold UnpackedFloat.unpack
  extract_lets
  rw [if_pos hones]
  by_cases hmantissa : UnpackedFloat.unpackMantissa bits = 0#_
  · rw [if_pos hmantissa]
    rfl
  · rw [if_neg hmantissa]
    rfl

theorem unpack_of_zero (hzero : UnpackedFloat.unpackExponent bits = 0#_)
    (hmantissa : UnpackedFloat.unpackMantissa bits = 0#_) :
    UnpackedFloat.unpack double bits = .zero (.ofBitVec (UnpackedFloat.unpackSign bits)) := by
  unfold UnpackedFloat.unpack
  extract_lets
  have hones : UnpackedFloat.unpackExponent bits ≠ -1#_ := by
    rw [hzero]
    decide
  rw [if_neg hones, if_pos hzero, dif_pos hmantissa]

theorem toNat_unpackExponent_lt (hones : UnpackedFloat.unpackExponent bits ≠ -1#_) :
    (UnpackedFloat.unpackExponent bits).toNat < 2047 := by
  have hbound : (UnpackedFloat.unpackExponent bits).toNat < 2048 :=
    (UnpackedFloat.unpackExponent bits).isLt
  have hne : (UnpackedFloat.unpackExponent bits).toNat ≠ 2047 :=
    fun h => hones (BitVec.toNat_inj.mp h)
  omega

/-- What is unpacked has an exponent that can be packed again. -/
theorem fits_unpack (hones : UnpackedFloat.unpackExponent bits ≠ -1#_) :
    Fits (UnpackedFloat.unpack double bits) := by
  by_cases hzero : UnpackedFloat.unpackExponent bits = 0#_
  · by_cases hmantissa : UnpackedFloat.unpackMantissa bits = 0#_
    · rw [unpack_of_zero hzero hmantissa]
      trivial
    -- The exponent of a subnormal number is read as one more than it is.
    · unfold UnpackedFloat.unpack
      extract_lets
      rw [if_neg hones, if_pos hzero, dif_neg hmantissa]
      show biased (unbiased (UnpackedFloat.unpackExponent bits).toNat + 1) < 2047
      rw [hzero]
      decide
  · unfold UnpackedFloat.unpack
    extract_lets
    rw [if_neg hones, if_neg hzero]
    show biased (unbiased (UnpackedFloat.unpackExponent bits).toNat) < 2047
    rw [biased_unbiased]
    exact toNat_unpackExponent_lt hones

theorem isFinite_of_fits {u : UnpackedFloat} (h : Fits u) : u.isFinite = true := by
  cases u with
  | infinity | notANumber => exact h.elim
  | zero | finite => rfl

theorem isFinite_unpack_iff :
    (UnpackedFloat.unpack double bits).isFinite = true ↔
      UnpackedFloat.unpackExponent bits ≠ -1#_ := by
  constructor
  · intro h hones
    rw [isFinite_unpack_of_ones hones] at h
    cases h
  · intro hones
    exact isFinite_of_fits (fits_unpack hones)

end Unpacked

/-- The fields of a finite number: a subnormal one has the exponent zero, and a normal one
drops the leading bit of its mantissa. -/
theorem pack_finite {s : UnpackedFloat.Sign} {m : Nat} {e : Int} (hm : 0 < m)
    (he : biased e < 2047) :
    UnpackedFloat.pack double (.finite s m e hm) = UnpackedFloat.packComponents double s
      (if m.log2 = 52 then BitVec.ofNat _ (biased e) else 0#_) (BitVec.ofNat _ m) := by
  have hroom : ¬ 2 ^ double.exponentBits ≤ biased e + 1 := by
    show ¬ 2048 ≤ biased e + 1
    omega
  have hfull : m.log2 + 1 = double.mantissaBits ↔ m.log2 = 52 := by
    show m.log2 + 1 = 53 ↔ _
    omega
  show (if 2 ^ double.exponentBits ≤ biased e + 1 then UnpackedFloat.packedInfinity double s
    else if m.log2 + 1 = double.mantissaBits then
      UnpackedFloat.packComponents double s (BitVec.ofNat _ (biased e)) (BitVec.ofNat _ m)
    else UnpackedFloat.packComponents double s 0#_ (BitVec.ofNat _ m)) = _
  rw [if_neg hroom]
  by_cases h : m.log2 = 52
  · rw [if_pos (hfull.mpr h), if_pos h]
  · rw [if_neg (fun hlog => h (hfull.mp hlog)), if_neg h]

theorem isFinite_pack {u : UnpackedFloat} (h : Fits u) :
    (UnpackedFloat.unpack double (UnpackedFloat.pack double u)).isFinite = true := by
  rw [isFinite_unpack_iff]
  cases u with
  | infinity | notANumber => exact h.elim
  | zero s =>
    show UnpackedFloat.unpackExponent (UnpackedFloat.packComponents double s 0 0) ≠ -1#_
    rw [UnpackedFloat.unpackExponent_packComponents]
    decide
  | finite s m e hm =>
    have hlt : biased e < 2047 := h
    rw [pack_finite hm hlt, UnpackedFloat.unpackExponent_packComponents]
    split
    · intro hones
      have hkept := congrArg BitVec.toNat hones
      rw [BitVec.toNat_ofNat] at hkept
      change biased e % 2048 = 2047 at hkept
      omega
    · decide

/-! ## Operations -/

/-- The bits of a double. -/
def packed (x : Float) : BitVec double.numBits := x.toModel.toBits.toBitVec

section Operations

variable {x y : Float}

theorem fits_of_isFinite (h : x.isFinite = true) : Fits x.toModel.unpack :=
  fits_unpack (isFinite_unpack_iff.mp h)

theorem unpack_zero : (Float.ofInt 0).toModel.unpack = .zero .positive := by
  rfl

theorem isFinite_neg (h : x.isFinite = true) : (-x).isFinite = true := by
  have hfits := fits_of_isFinite h
  show (UnpackedFloat.unpack double (UnpackedFloat.pack double x.toModel.unpack.neg)).isFinite
    = true
  refine isFinite_pack ?_
  cases hx : x.toModel.unpack <;> rw [hx] at hfits <;> exact hfits

/-- Adding zero keeps what is finite: at most the sign of a zero changes. -/
theorem isFinite_add_zero (h : x.isFinite = true) :
    (x + Float.ofInt 0).isFinite = true := by
  have hfits := fits_of_isFinite h
  show (UnpackedFloat.unpack double (UnpackedFloat.pack double
    (UnpackedFloat.add double x.toModel.unpack (Float.ofInt 0).toModel.unpack))).isFinite = true
  refine isFinite_pack ?_
  rw [unpack_zero]
  cases hx : x.toModel.unpack with
  | infinity | notANumber =>
    rw [hx] at hfits
    exact hfits.elim
  | zero s => cases s <;> trivial
  | finite =>
    rw [hx] at hfits
    exact hfits

theorem isFinite_abs (h : x.isFinite = true) : x.abs.isFinite = true := by
  have hfits := fits_of_isFinite h
  show (UnpackedFloat.unpack double (UnpackedFloat.pack double x.toModel.unpack.abs)).isFinite
    = true
  refine isFinite_pack ?_
  cases hx : x.toModel.unpack <;> rw [hx] at hfits <;> exact hfits

theorem isNaN_eq_false (h : x.isFinite = true) : x.isNaN = false := by
  have hfits := fits_of_isFinite h
  show x.toModel.unpack.isNaN = false
  cases hx : x.toModel.unpack with
  | notANumber =>
    rw [hx] at hfits
    exact hfits.elim
  | infinity | zero | finite => rfl

/-- The exponent of a double, as a number. -/
theorem toNat_unpackExponent (x : Float) :
    (UnpackedFloat.unpackExponent (packed x)).toNat =
      x.toBits.toNat / Nat.pow 2 52 % 2048 :=
  toNat_exponent (packed x)

theorem exponent_ne (h : x.isFinite = true) : x.toBits.toNat / Nat.pow 2 52 % 2048 ≠ 2047 := by
  rw [← toNat_unpackExponent]
  exact fun hones => isFinite_unpack_iff.mp h (BitVec.toNat_inj.mp hones)

/-- A finite double has an exact value. -/
theorem exists_ofFloat? (h : x.isFinite = true) : ∃ a, Binary.ofFloat? x = some a := by
  unfold Binary.ofFloat?
  simp only
  split
  · rename_i hones
    exact absurd hones (exponent_ne h)
  · exact ⟨_, rfl⟩
  · exact ⟨_, rfl⟩

theorem toNat_unpackMantissa (x : Float) :
    (UnpackedFloat.unpackMantissa (packed x)).toNat =
      x.toBits.toNat % Nat.pow 2 52 :=
  toNat_mantissa (packed x)

/-- A double without exponent and mantissa is zero. -/
theorem isZero_of_fields (hexponent : x.toBits.toNat / Nat.pow 2 52 % 2048 = 0)
    (hmantissa : x.toBits.toNat % Nat.pow 2 52 = 0) : Scalar.isZero x = true := by
  rw [← toNat_unpackExponent] at hexponent
  rw [← toNat_unpackMantissa] at hmantissa
  have hexponent' := BitVec.eq_of_toNat_eq (y := 0#_) hexponent
  have hmantissa' := BitVec.eq_of_toNat_eq (y := 0#_) hmantissa
  have hzero : x.toModel.unpack = .zero (.ofBitVec (UnpackedFloat.unpackSign (packed x))) :=
    unpack_of_zero hexponent' hmantissa'
  show x.toModel.unpack.beq (Float.ofInt 0).toModel.unpack = true
  rw [hzero, unpack_zero]
  rfl

theorem mantissa_ne_zero {b : Binary} (hx : Scalar.isZero x = false)
    (hb : Binary.ofFloat? x = some b) : b.mantissa ≠ 0 := by
  intro hzero
  unfold Binary.ofFloat? at hb
  simp only at hb
  split at hb
  · cases hb
  · rename_i hexponent
    cases hb
    rw [isZero_of_fields hexponent hzero] at hx
    cases hx
  · cases hb
    have hpositive : 0 < Binary.fullMantissa := by decide
    simp only at hzero
    omega

/-- The remainder of a finite double by one that is not zero. -/
theorem exists_remainder? (hx : x.isFinite = true) (hy : y.isFinite = true)
    (hzero : Scalar.isZero y = false) : ∃ z, remainder? x y = some z := by
  obtain ⟨a, ha⟩ := exists_ofFloat? hx
  obtain ⟨b, hb⟩ := exists_ofFloat? hy
  refine ⟨(a.remainder b).toFloat, ?_⟩
  unfold remainder?
  simp only [isNaN_eq_false hx, isNaN_eq_false hy, ha, hb, mantissa_ne_zero hzero hb,
    Bool.false_eq_true, if_false]

theorem isFinite_ofInt {n : Int} (h : n.natAbs ≤ 3) : (Float.ofInt n).isFinite = true := by
  have hall : ∀ n ∈ [-3, -2, -1, 0, 1, 2, 3], (Float.ofInt n).isFinite = true := by
    decide +kernel
  refine hall n ?_
  simp only [List.mem_cons, List.not_mem_nil, or_false]
  omega

theorem isFinite_e : (2.718281828459045 : Float).isFinite = true := by
  decide +kernel

theorem isFinite_pi : Gamma.pi.isFinite = true := by
  decide +kernel

theorem isFinite_logarithm? {log : Float → Float}
    (hlog : ∀ x, x.isFinite = true → x > 0 → (log x).isFinite = true)
    (hx : x.isFinite = true) (h : logarithm? log x = some y) : y.isFinite = true := by
  unfold logarithm? at h
  rw [isNaN_eq_false hx, if_neg Bool.false_ne_true] at h
  split at h
  · rename_i hpositive
    cases h
    exact hlog x hx hpositive
  · cases h

end Operations

/-! ## The laws of doubles -/

/-- The functions of a number that doubles take from a platform. -/
structure Platform where
  log10 : Float → Float
  log : Float → Float
  gamma? : Float → Option Float

namespace Platform

/-- Doubles on a platform. -/
@[reducible] def doubles (p : Platform) : Scalar Float :=
  { (inferInstance : Scalar Float) with
    log? := logarithm? p.log10
    ln? := logarithm? p.log
    gamma? := p.gamma? }

/-- The platform that the calculator runs on. -/
def native : Platform := ⟨Float.log10, Float.log, Gamma.gamma?⟩

example : native.doubles = (inferInstance : Scalar Float) := rfl

/-- Where the functions of a platform have a result for a finite number, it is finite. -/
structure Finite (p : Platform) : Prop where
  log10 : ∀ x : Float, x.isFinite = true → x > 0 → (p.log10 x).isFinite = true
  log : ∀ x : Float, x.isFinite = true → x > 0 → (p.log x).isFinite = true
  gamma : ∀ x y : Float, x.isFinite = true → p.gamma? (x + 1) = some y → y.isFinite = true

/-- Doubles keep finite numbers finite as far as the platform does. -/
theorem Finite.finiteLaws {p : Platform} (laws : p.Finite) :
    letI := p.doubles
    Scalar.FiniteLaws Float :=
  let _ := p.doubles
  { one := (isFinite_ofInt (by decide) : (Float.ofInt 1).isFinite = true)
    e := isFinite_e
    pi := isFinite_pi
    neg := fun _ hx => isFinite_neg hx
    abs := fun _ hx => isFinite_abs hx
    log := fun _ _ hx h => isFinite_logarithm? laws.log10 hx h
    ln := fun _ _ hx h => isFinite_logarithm? laws.log hx h
    gamma := by
      intro x y hx h
      have hone : Float.ofInt 1 = 1 := by
        decide +kernel
      change p.gamma? (x + Float.ofInt 1) = some y at h
      rw [hone] at h
      exact laws.gamma x y hx h
    remainder := fun _ _ hx hy hzero => exists_remainder? hx hy hzero }

end Platform

end UnitCalc.Number
