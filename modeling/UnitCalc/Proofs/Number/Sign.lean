import UnitCalc.Proofs.Number.Packing
import UnitCalc.Proofs.Quantity.Sign

/-!
# The sign of doubles

Doubles obey the laws of signs bit for bit, with the signs of zeros and for what is not finite:
products, quotients and remainders pass a minus on, and a difference is a sum with a minus. What
a decimal stands for has no minus.
-/

namespace UnitCalc.Number

open Float.Model
open UnpackedFloat (Sign unpackSign unpackExponent unpackMantissa packComponents)

/-! ## Unpacked numbers -/

namespace Unpacked

variable {u v : UnpackedFloat}

theorem neg_mul_sign (s t : Sign) : -s * t = -(s * t) := by
  cases s <;> cases t <;> rfl

theorem mul_neg_sign (s t : Sign) : s * -t = -(s * t) := by
  cases s <;> cases t <;> rfl

theorem neg_div_sign (s t : Sign) : -s / t = -(s / t) := by
  cases s <;> cases t <;> rfl

theorem roundWithAccuracy_neg (s : Sign) (m : Nat) (e : Int) (a : UnpackedFloat.Accuracy) :
    UnpackedFloat.roundWithAccuracy double (-s) m e a =
      (UnpackedFloat.roundWithAccuracy double s m e a).neg := by
  unfold UnpackedFloat.roundWithAccuracy
  simp only
  split <;> rfl

theorem neg_neg (u : UnpackedFloat) : u.neg.neg = u := by
  have hsign (s : Sign) : - -s = s := by
    cases s <;> rfl
  cases u <;> simp only [UnpackedFloat.neg, hsign]

theorem neg_mul (u v : UnpackedFloat) :
    UnpackedFloat.mul double u.neg v = (UnpackedFloat.mul double u v).neg := by
  cases u <;> cases v <;>
    simp only [UnpackedFloat.mul, UnpackedFloat.neg, neg_mul_sign, roundWithAccuracy_neg]

theorem mul_neg (u v : UnpackedFloat) :
    UnpackedFloat.mul double u v.neg = (UnpackedFloat.mul double u v).neg := by
  cases u <;> cases v <;>
    simp only [UnpackedFloat.mul, UnpackedFloat.neg, mul_neg_sign, roundWithAccuracy_neg]

theorem neg_div (u v : UnpackedFloat) :
    UnpackedFloat.div double u.neg v = (UnpackedFloat.div double u v).neg := by
  cases u <;> cases v <;>
    simp only [UnpackedFloat.div, UnpackedFloat.neg, neg_div_sign, roundWithAccuracy_neg]

theorem add_neg (u v : UnpackedFloat) :
    UnpackedFloat.add double u v.neg = UnpackedFloat.sub double u v := by
  have happly (s : Sign) (n : Int) : (-s).apply n = -s.apply n := by
    cases s with
    | negative => exact (Int.neg_neg n).symm
    | positive => rfl
  cases u <;> cases v <;>
    simp only [UnpackedFloat.add, UnpackedFloat.sub, UnpackedFloat.neg, happly,
      Int.sub_eq_add_neg]

theorem abs_of_positive (h : sign? u = some .positive) : u.abs = u ∧ u.neg.abs = u := by
  cases u <;> cases h <;> exact ⟨rfl, rfl⟩

/-! ### Numbers without a minus -/

/-- Whether a number is finite and above zero. -/
def isPositive : UnpackedFloat → Bool
  | .finite .positive _ _ _ => true
  | _ => false

theorem exists_of_isPositive (h : isPositive u = true) :
    ∃ m e hm, u = .finite .positive m e hm := by
  unfold isPositive at h
  split at h
  · exact ⟨_, _, _, rfl⟩
  · cases h

theorem sign?_roundWithAccuracy (s : Sign) (m : Nat) (e : Int) (a : UnpackedFloat.Accuracy) :
    sign? (UnpackedFloat.roundWithAccuracy double s m e a) = some s := by
  unfold UnpackedFloat.roundWithAccuracy
  simp only
  split <;> rfl

theorem sign?_mul (h : sign? u = some .positive) (hv : isPositive v = true) :
    sign? (UnpackedFloat.mul double u v) = some .positive := by
  obtain ⟨m, e, hm, rfl⟩ := exists_of_isPositive hv
  cases u with
  | notANumber => cases h
  | infinity | zero =>
    cases h
    rfl
  | finite =>
    cases h
    exact sign?_roundWithAccuracy _ _ _ _

theorem sign?_div (h : sign? u = some .positive) (hv : isPositive v = true) :
    sign? (UnpackedFloat.div double u v) = some .positive := by
  obtain ⟨m, e, hm, rfl⟩ := exists_of_isPositive hv
  cases u with
  | notANumber => cases h
  | infinity | zero =>
    cases h
    rfl
  | finite =>
    cases h
    exact sign?_roundWithAccuracy _ _ _ _

theorem sign?_ofNat (n : Nat) : sign? (UnpackedFloat.ofNat double n) = some .positive := by
  show sign? (UnpackedFloat.normalize double n 0 .positive) = _
  unfold UnpackedFloat.normalize
  split
  · rename_i h
    rw [Int.compare_eq_lt] at h
    omega
  · rfl
  · exact sign?_roundWithAccuracy _ _ _ _

theorem sign?_ofScientific (n : Nat) (e : Int) :
    sign? (UnpackedFloat.ofScientific double n e) = some .positive := by
  unfold UnpackedFloat.ofScientific
  split
  · rfl
  · split
    · rfl
    · split
      · rfl
      · split
        · exact sign?_mul rfl rfl
        · exact sign?_div rfl rfl

end Unpacked

/-! ## Doubles -/

namespace Double

variable {x y : Float}

theorem unpack_neg (x : Float) : (-x).toModel.unpack = x.toModel.unpack.neg := by
  show UnpackedFloat.unpack double (UnpackedFloat.pack double x.toModel.unpack.neg) = _
  rw [unpack_pack_neg]
  exact congrArg _ (unpack_pack_unpack (packed x))

theorem neg_neg (x : Float) : - -x = x := by
  apply eq_of_unpack
  rw [unpack_neg, unpack_neg, Unpacked.neg_neg]

theorem isFinite_neg_eq (x : Float) : (-x).isFinite = x.isFinite := by
  show (-x).toModel.unpack.isFinite = x.toModel.unpack.isFinite
  rw [unpack_neg]
  cases x.toModel.unpack <;> rfl

theorem isNaN_neg (x : Float) : (-x).isNaN = x.isNaN := by
  show (-x).toModel.unpack.isNaN = x.toModel.unpack.isNaN
  rw [unpack_neg]
  cases x.toModel.unpack <;> rfl

theorem neg_mul (x y : Float) : -x * y = -(x * y) := by
  apply eq_of_unpack
  rw [unpack_neg]
  show UnpackedFloat.unpack double (UnpackedFloat.pack double
    (UnpackedFloat.mul double (-x).toModel.unpack y.toModel.unpack)) = _
  rw [unpack_neg, Unpacked.neg_mul, unpack_pack_neg]
  rfl

theorem mul_neg (x y : Float) : x * -y = -(x * y) := by
  apply eq_of_unpack
  rw [unpack_neg]
  show UnpackedFloat.unpack double (UnpackedFloat.pack double
    (UnpackedFloat.mul double x.toModel.unpack (-y).toModel.unpack)) = _
  rw [unpack_neg, Unpacked.mul_neg, unpack_pack_neg]
  rfl

theorem neg_div (x y : Float) : -x / y = -(x / y) := by
  apply eq_of_unpack
  rw [unpack_neg]
  show UnpackedFloat.unpack double (UnpackedFloat.pack double
    (UnpackedFloat.div double (-x).toModel.unpack y.toModel.unpack)) = _
  rw [unpack_neg, Unpacked.neg_div, unpack_pack_neg]
  rfl

theorem add_neg (x y : Float) : x + -y = x - y := by
  apply eq_of_unpack
  show UnpackedFloat.unpack double (UnpackedFloat.pack double
    (UnpackedFloat.add double x.toModel.unpack (-y).toModel.unpack)) = _
  rw [unpack_neg, Unpacked.add_neg]
  rfl

theorem isNegative_eq (x : Float) :
    isNegative x = ((unpackSign (packed x)).toNat == 1) := by
  rw [toNat_sign]
  rfl

theorem isNegative_of_sign? {s : Sign} (h : sign? x.toModel.unpack = some s) :
    isNegative x = (s.toBitVec.toNat == 1) := by
  have hne : x.toModel.unpack ≠ .notANumber := by
    intro hnan
    rw [hnan] at h
    cases h
  have hsign : some (Sign.ofBitVec (unpackSign (packed x))) = some s :=
    (sign?_unpack hne).symm.trans h
  rw [isNegative_eq, ← Option.some.inj hsign, Sign.toBitVec_ofBitVec]

/-! ### Decimals -/

theorem isPositive_powerOfTen : ∀ e : Fin 23,
    Unpacked.isPositive (Float.exactlyRepresentablePowersOfTen[e]).toModel.unpack = true := by
  decide +kernel

theorem sign?_ofScientific (n : Nat) (negative : Bool) (e : Nat) :
    sign? (Float.ofScientific n negative e).toModel.unpack = some .positive := by
  unfold Float.ofScientific
  split
  -- A short decimal is computed from doubles, a long one from exact numbers.
  · rename_i h
    have hpower := isPositive_powerOfTen ⟨e, by omega⟩
    have hdigits : sign? (n.toUInt64.toFloat).toModel.unpack = some .positive :=
      (sign?_pack _).trans (Unpacked.sign?_ofNat _)
    extract_lets power
    split
    · exact (sign?_pack _).trans (Unpacked.sign?_div hdigits hpower)
    · exact (sign?_pack _).trans (Unpacked.sign?_mul hdigits hpower)
  · exact (sign?_pack _).trans (Unpacked.sign?_ofScientific _ _)

/-- What a decimal stands for has no minus. -/
theorem sign?_ofDecimal (digits : Nat) (exponent : Int) :
    sign? (ofDecimal digits exponent).toModel.unpack = some .positive := by
  unfold ofDecimal
  split
  · rfl
  · split
    · rfl
    · split
      · rfl
      · exact sign?_ofScientific _ _ _

theorem sign?_neg_ofDecimal (digits : Nat) (exponent : Int) :
    sign? (-ofDecimal digits exponent).toModel.unpack = some .negative := by
  have h := sign?_ofDecimal digits exponent
  rw [unpack_neg]
  cases hx : (ofDecimal digits exponent).toModel.unpack <;> rw [hx] at h <;> cases h <;> rfl

theorem abs_eq_of_unpack (h : x.toModel.unpack.abs = y.toModel.unpack) : x.abs = y := by
  apply eq_of_unpack
  show UnpackedFloat.unpack double (UnpackedFloat.pack double x.toModel.unpack.abs) = _
  rw [h]
  exact unpack_pack_unpack (packed y)

theorem abs_of_positive (h : sign? x.toModel.unpack = some .positive) :
    x.abs = x ∧ (-x).abs = x := by
  obtain ⟨habs, hneg⟩ := Unpacked.abs_of_positive h
  rw [← unpack_neg] at hneg
  exact ⟨abs_eq_of_unpack habs, abs_eq_of_unpack hneg⟩

/-! ### Remainders -/

/-- The value of opposite sign. -/
def negated (b : Binary) : Binary := { b with negative := !b.negative }

theorem exists_packed (h : x.isNaN = false) : ∃ s e m,
    packed x = packComponents double s e m ∧ packed (-x) = packComponents double (-s) e m := by
  have hpacked := pack_unpack_packed x
  rcases exists_pack x.toModel.unpack with hnan | ⟨s, e, m, hpack, hneg⟩
  · change x.toModel.unpack.isNaN = false at h
    rw [hnan] at h
    cases h
  · exact ⟨s, e, m, hpacked.symm.trans hpack, hneg⟩

theorem ofFloat?_neg (h : x.isNaN = false) :
    Binary.ofFloat? (-x) = (Binary.ofFloat? x).map negated := by
  obtain ⟨s, e, m, hx, hneg⟩ := exists_packed h
  have hexponent : (-x).toBits.toNat / Nat.pow 2 52 % 2048 =
      x.toBits.toNat / Nat.pow 2 52 % 2048 := by
    rw [← toNat_unpackExponent, ← toNat_unpackExponent, hx, hneg,
      UnpackedFloat.unpackExponent_packComponents, UnpackedFloat.unpackExponent_packComponents]
  have hmantissa : (-x).toBits.toNat % Nat.pow 2 52 = x.toBits.toNat % Nat.pow 2 52 := by
    rw [← toNat_unpackMantissa, ← toNat_unpackMantissa, hx, hneg,
      UnpackedFloat.unpackMantissa_packComponents, UnpackedFloat.unpackMantissa_packComponents]
  have hsign : ((-x).toBits.toNat / Nat.pow 2 63 == 1) =
      !(x.toBits.toNat / Nat.pow 2 63 == 1) := by
    show isNegative (-x) = !isNegative x
    rw [isNegative_eq, isNegative_eq, hx, hneg,
      UnpackedFloat.unpackSign_packComponents, UnpackedFloat.unpackSign_packComponents]
    cases s <;> rfl
  unfold Binary.ofFloat?
  simp only [Binary.fullMantissa, hexponent, hmantissa, hsign]
  split <;> rfl

theorem neg_ofBits (n : Nat) :
    -Float.ofBits (UInt64.ofNat n) = Float.ofBits (UInt64.ofNat (Nat.pow 2 63 + n)) := by
  have hunpack (n : Nat) : (Float.ofBits (UInt64.ofNat n)).toModel.unpack =
      UnpackedFloat.unpack double (BitVec.ofNat 64 n) := unpack_pack_unpack _
  have hbits (n : Nat) : (BitVec.ofNat 64 n : BitVec double.numBits).toNat = n % 2 ^ 64 :=
    BitVec.toNat_ofNat n 64
  apply eq_of_unpack
  rw [unpack_neg, hunpack, hunpack, eq_comm]
  refine unpack_eq_neg ?_ ?_ ?_
  · have hflip (b : BitVec 1) : Sign.ofBitVec (b + 1#1) = -Sign.ofBitVec b := by
      obtain rfl | rfl := BitVec.eq_zero_or_eq_one b <;> rfl
    rw [← hflip]
    congr 1
    apply BitVec.eq_of_toNat_eq
    rw [BitVec.toNat_add, toNat_sign, toNat_sign, hbits, hbits]
    simp only [Nat.pow_eq, BitVec.toNat_ofNat]
    omega
  · apply BitVec.eq_of_toNat_eq
    rw [toNat_exponent, toNat_exponent, hbits, hbits]
    simp only [Nat.pow_eq]
    omega
  · apply BitVec.eq_of_toNat_eq
    rw [toNat_mantissa, toNat_mantissa, hbits, hbits]
    simp only [Nat.pow_eq]
    omega

theorem toFloat_negated (b : Binary) : (negated b).toFloat = -b.toFloat := by
  obtain ⟨negative, mantissa, exponent⟩ := b
  unfold Binary.toFloat negated
  cases negative with
  | false =>
    simp only [Bool.false_eq_true, if_false, Bool.not_false, if_true, Nat.zero_add]
    exact (neg_ofBits _).symm
  | true =>
    simp only [Bool.false_eq_true, if_false, Bool.not_true, if_true, Nat.zero_add]
    rw [← neg_ofBits, neg_neg]

theorem neg_of_isNaN (h : x.isNaN = true) : -x = x := by
  change x.toModel.unpack.isNaN = true at h
  apply eq_of_unpack
  rw [unpack_neg]
  cases hx : x.toModel.unpack with
  | notANumber => rfl
  | infinity | zero | finite =>
    rw [hx] at h
    cases h

theorem remainder?_neg (x y : Float) :
    remainder? (-x) y = (remainder? x y).map (fun z => -z) := by
  unfold remainder?
  rw [isNaN_neg]
  split
  · rfl
  · rename_i hx
    split
    · rename_i hy
      rw [Option.map_some, neg_of_isNaN hy]
    · rw [ofFloat?_neg (by simpa using hx)]
      cases Binary.ofFloat? x with
      | none => rfl
      | some a =>
        cases Binary.ofFloat? y with
        | none => rfl
        | some b =>
          simp only [Option.map_some]
          split
          · rfl
          · exact congrArg some (toFloat_negated (a.remainder b))

end Double

/-- Doubles obey the laws of signs on every platform. -/
theorem Platform.signLaws (p : Platform) :
    letI := p.doubles
    Scalar.SignLaws Float :=
  let _ := p.doubles
  { isFinite_neg := Double.isFinite_neg_eq
    neg_mul := Double.neg_mul
    mul_neg := Double.mul_neg
    neg_div := Double.neg_div
    add_neg := Double.add_neg
    remainder_neg := Double.remainder?_neg
    isNegative_ofDecimal := fun digits exponent =>
      Double.isNegative_of_sign? (Double.sign?_ofDecimal digits exponent)
    isNegative_neg := fun digits exponent =>
      Double.isNegative_of_sign? (Double.sign?_neg_ofDecimal digits exponent)
    abs_ofDecimal := fun digits exponent =>
      (Double.abs_of_positive (Double.sign?_ofDecimal digits exponent)).1
    abs_neg := fun digits exponent =>
      (Double.abs_of_positive (Double.sign?_ofDecimal digits exponent)).2 }

end UnitCalc.Number
