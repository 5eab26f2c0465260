import Mathlib
import TypedFetch.Number.Double

/-!
# Finite doubles

A double has an exact value exactly if it is finite (`isFinite_iff`).
-/

namespace TypedFetch.Number

open Float.Model (UnpackedFloat)

/-- The exponent in the word of a double. -/
def biasedExponent (x : Float) : Nat :=
  x.toBits.toNat / Nat.pow 2 52 % 2048

/-- Only the largest exponent stands for no number. -/
lemma isFinite_unpack {word : BitVec 64} :
    (UnpackedFloat.unpack Float.Model.Format.binary64 word).isFinite = true ↔
      (UnpackedFloat.unpackExponent word : BitVec Float.Model.Format.binary64.exponentBits) ≠
        -BitVec.ofNat Float.Model.Format.binary64.exponentBits 1 := by
  simp only [UnpackedFloat.unpack]
  split
  · next hexponent =>
    split <;> simp [UnpackedFloat.isFinite, hexponent]
  · next hexponent =>
    refine iff_of_true ?_ hexponent
    split
    · split <;> rfl
    · rfl

lemma isFinite_iff_biasedExponent {x : Float} : x.isFinite = true ↔ biasedExponent x ≠ 2047 := by
  have hexponent : (UnpackedFloat.unpackExponent x.toModel.toBits.toBitVec :
      BitVec Float.Model.Format.binary64.exponentBits).toNat = biasedExponent x := by
    change x.toBits.toNat >>> 52 % 2 ^ 11 = biasedExponent x
    rw [Nat.shiftRight_eq_div_pow]
    rfl
  change (UnpackedFloat.unpack Float.Model.Format.binary64 x.toModel.toBits.toBitVec).isFinite =
    true ↔ _
  rw [isFinite_unpack, ← hexponent, ne_eq, ne_eq, ← BitVec.toNat_inj]
  rfl

lemma isFinite_iff {x : Float} :
    x.isFinite = true ↔ ∃ negative m q, exact x = .finite negative m q := by
  rw [isFinite_iff_biasedExponent]
  unfold exact biasedExponent
  dsimp only
  split
  · split <;> simp_all
  · split <;> simp_all

end TypedFetch.Number
