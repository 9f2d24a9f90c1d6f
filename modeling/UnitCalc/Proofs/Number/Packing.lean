import Mathlib
import UnitCalc.Proofs.Number.Finite

/-!
# Packing and unpacking doubles

Operations on doubles unpack their operands and pack the result. What is unpacked is packed to
the same bits again, so two doubles are equal if they unpack to one number. The sign of a number
has a bit of its own: another sign changes this bit and no other, on both ways.
-/

namespace UnitCalc.Number

open Float.Model
open UnpackedFloat (Sign unpackSign unpackExponent unpackMantissa packComponents)

/-! ## There and back -/

theorem toNat_sign (bits : BitVec double.numBits) :
    (unpackSign bits).toNat = bits.toNat / Nat.pow 2 63 := by
  have hlt : bits.toNat < Nat.pow 2 64 := bits.isLt
  rw [unpackSign, BitVec.toNat_cast, BitVec.extractLsb_toNat, Nat.shiftRight_eq_div_pow]
  show bits.toNat / Nat.pow 2 63 % 2 = _
  simp only [Nat.pow_eq] at hlt ⊢
  omega

/-- Not-a-number is packed to other bits than it was unpacked from, but to not-a-number. -/
theorem unpack_pack_unpack (bits : BitVec double.numBits) :
    UnpackedFloat.unpack double (UnpackedFloat.pack double (UnpackedFloat.unpack double bits)) =
      UnpackedFloat.unpack double bits := by
  rw [UnpackedFloat.pack_unpack bits]
  split
  · rename_i hnan
    simp only [UnpackedFloat.isNaNBits, decide_eq_true_eq] at hnan
    rw [UnpackedFloat.unpack_packedNaN]
    unfold UnpackedFloat.unpack
    extract_lets
    rw [if_pos hnan.1, if_neg hnan.2]
  · rfl

theorem pack_unpack_packed (x : Float) :
    UnpackedFloat.pack double x.toModel.unpack = packed x :=
  UnpackedFloat.pack_unpack_of_valid x.toModel.valid

/-- Doubles are equal if they unpack to one number. -/
theorem eq_of_unpack {x y : Float} (h : x.toModel.unpack = y.toModel.unpack) : x = y := by
  have hpacked : packed x = packed y :=
    (UnpackedFloat.unpack_inj_of_valid x.toModel.valid y.toModel.valid).mp h
  exact Float.toBits_inj.mp (congrArg UInt64.ofBitVec hpacked)

/-! ## The sign -/

section Sign

variable {bits bits' : BitVec double.numBits} {u : UnpackedFloat}

/-- The sign of a number, which a zero has too. -/
def sign? : UnpackedFloat → Option Sign
  | .notANumber => none
  | .infinity s | .zero s | .finite s _ _ _ => some s

theorem unpack_eq_neg
    (hsign : Sign.ofBitVec (unpackSign bits') = -Sign.ofBitVec (unpackSign bits))
    (hexponent : unpackExponent bits' = unpackExponent bits)
    (hmantissa : unpackMantissa bits' = unpackMantissa bits) :
    UnpackedFloat.unpack double bits' = (UnpackedFloat.unpack double bits).neg := by
  unfold UnpackedFloat.unpack
  simp only [hsign, hexponent, hmantissa]
  split
  · split <;> rfl
  · split
    · split <;> rfl
    · rfl

/-- A number and the one of opposite sign are packed to bits that differ in the sign only. -/
theorem exists_pack (u : UnpackedFloat) :
    u = .notANumber ∨ ∃ s e m, UnpackedFloat.pack double u = packComponents double s e m ∧
      UnpackedFloat.pack double u.neg = packComponents double (-s) e m := by
  cases u with
  | notANumber => exact .inl rfl
  | infinity s => exact .inr ⟨s, _, _, rfl, rfl⟩
  | zero s => exact .inr ⟨s, _, _, rfl, rfl⟩
  | finite s m e hm =>
    right
    unfold UnpackedFloat.neg UnpackedFloat.pack
    simp only
    split
    · exact ⟨s, _, _, rfl, rfl⟩
    · split
      · exact ⟨s, _, _, rfl, rfl⟩
      · exact ⟨s, _, _, rfl, rfl⟩

theorem unpack_pack_neg (u : UnpackedFloat) :
    UnpackedFloat.unpack double (UnpackedFloat.pack double u.neg) =
      (UnpackedFloat.unpack double (UnpackedFloat.pack double u)).neg := by
  rcases exists_pack u with rfl | ⟨s, e, m, hu, hneg⟩
  · rfl
  · rw [hu, hneg]
    refine unpack_eq_neg ?_ ?_ ?_
    · simp only [UnpackedFloat.unpackSign_packComponents, Sign.ofBitVec_toBitVec]
    · rw [UnpackedFloat.unpackExponent_packComponents,
        UnpackedFloat.unpackExponent_packComponents]
    · rw [UnpackedFloat.unpackMantissa_packComponents,
        UnpackedFloat.unpackMantissa_packComponents]

theorem sign?_unpack (h : UnpackedFloat.unpack double bits ≠ .notANumber) :
    sign? (UnpackedFloat.unpack double bits) = some (.ofBitVec (unpackSign bits)) := by
  unfold UnpackedFloat.unpack at h ⊢
  extract_lets at h ⊢
  split
  · split
    · rfl
    · rename_i hones hmantissa
      rw [if_pos hones, if_neg hmantissa] at h
      exact absurd rfl h
  · split
    · split <;> rfl
    · rfl

/-- Packing keeps the sign, even where it makes a number infinite. -/
theorem sign?_pack (u : UnpackedFloat) :
    sign? (UnpackedFloat.unpack double (UnpackedFloat.pack double u)) = sign? u := by
  cases u with
  | notANumber => rfl
  | infinity s => cases s <;> rfl
  | zero s => cases s <;> rfl
  | finite s m e hm =>
    by_cases he : biased e < 2047
    · have hfinite := isFinite_pack (u := .finite s m e hm) he
      rw [pack_finite hm he] at hfinite ⊢
      rw [sign?_unpack, UnpackedFloat.unpackSign_packComponents, Sign.ofBitVec_toBitVec]
      · rfl
      · intro h
        rw [h] at hfinite
        cases hfinite
    · have hroom : 2 ^ double.exponentBits ≤ biased e + 1 := by
        show 2048 ≤ biased e + 1
        omega
      have hinfinite : UnpackedFloat.pack double (.finite s m e hm) =
          UnpackedFloat.packedInfinity double s := if_pos hroom
      rw [hinfinite]
      cases s <;> rfl

end Sign

end UnitCalc.Number
