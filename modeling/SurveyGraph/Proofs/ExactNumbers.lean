import Mathlib.Tactic.Ring
import Mathlib.Tactic.NormNum
import SurveyGraph.Value
/-!
# Exact numbers

The bits of a finite floating point number stand for a fraction, and so does every value that counts as a number. A whole number
below 2 ^ 53 in size has at most 53 binary digits, so that no digit is lost when it is made a floating point number
(`exact_ofInt`).
-/
namespace SurveyGraph

/-- The number that the bits of a floating point number stand for. -/
def Decimal.Reading.rat? : Decimal.Reading → Option ℚ
  | .zero _ => some 0
  | .finite negative b => some ((if negative then -1 else 1) * b.mant * 2 ^ b.expo)
  | .nan | .infinite _ => none

def Value.rat? (v : Value) : Option ℚ :=
  v.number?.bind fun
    | .inl n => some n
    | .inr x => (Decimal.read x).rat?

namespace Decimal

open Float.Model (Format UnpackedFloat)
open Float.Model.UnpackedFloat (ExtendedMantissa Sign packComponents)

variable {s : Sign} {m : Nat} {e : Int} {h : 0 < m}

/-- A number with 53 binary digits and a normal exponent. -/
def Fits (m : Nat) (e : Int) : Prop := 2 ^ 52 ≤ m ∧ m < 2 ^ 53 ∧ -52 ≤ e ∧ e ≤ 0

lemma Fits.log2 (hf : Fits m e) : m.log2 = 52 :=
  (Nat.log2_eq_iff (by have := hf.1; omega)).mpr ⟨hf.1, hf.2.1⟩

lemma Fits.pack (hf : Fits m e) : UnpackedFloat.pack .binary64 (.finite s m e h) =
    packComponents .binary64 s (BitVec.ofNat 11 (e + 1075).toNat) (BitVec.ofNat 52 m) := by
  have hlog := hf.log2
  obtain ⟨-, -, hlow, hhigh⟩ := hf
  have hbias : e + (Format.binary64.exponentBias : Int) + (52 : Nat) = e + 1075 := by
    change e + (1023 : Int) + 52 = _
    omega
  have hroom : ¬ 2 ^ 11 ≤ (e + 1075).toNat + 1 := by omega
  unfold UnpackedFloat.pack
  simp only [hbias, if_neg hroom, hlog]
  rfl

lemma toNat_packComponents (x : BitVec 11) (y : BitVec 52) :
    (packComponents .binary64 s x y).toNat = s.toBitVec.toNat * 2 ^ 63 + x.toNat * 2 ^ 52 + y.toNat := by
  have hx := x.isLt
  have hy := y.isLt
  change (s.toBitVec ++ x ++ y).toNat = _
  rw [BitVec.toNat_append, BitVec.toNat_append, ← Nat.shiftLeft_add_eq_or_of_lt hx, ← Nat.shiftLeft_add_eq_or_of_lt hy]
  omega

lemma Fits.toBits (hf : Fits m e) : (Float.ofModel (.pack (.finite s m e h))).toBits.toNat =
    s.toBitVec.toNat * 2 ^ 63 + (e + 1075).toNat * 2 ^ 52 + (m - 2 ^ 52) := by
  obtain ⟨hm, hm', hlow, hhigh⟩ := id hf
  change (UnpackedFloat.pack .binary64 (.finite s m e h)).toNat = _
  rw [hf.pack, toNat_packComponents, BitVec.toNat_ofNat, BitVec.toNat_ofNat]
  omega

lemma readFields_normal {sign field frac : Nat} (hsign : sign < 2) (hpos : 0 < field) (hfield : field < 2047)
    (hfrac : frac < 2 ^ 52) : readFields 11 52 (sign * 2 ^ 63 + field * 2 ^ 52 + frac) =
      .finite (sign == 1) ⟨2 ^ 52 + frac, field - 1075, frac == 0 && field > 1⟩ := by
  have hlast : (sign * 2 ^ 63 + field * 2 ^ 52 + frac) % 2 ^ 52 = frac := by omega
  have hmiddle : (sign * 2 ^ 63 + field * 2 ^ 52 + frac) / 2 ^ 52 % 2 ^ 11 = field := by omega
  have hfirst : (sign * 2 ^ 63 + field * 2 ^ 52 + frac) / 2 ^ (52 + 11) % 2 = sign := by omega
  have hfinite : (field == 2 ^ 11 - 1) = false := beq_false_of_ne (by omega)
  have hnormal : (field == 0) = false := beq_false_of_ne (by omega)
  have hbias : (((2 ^ (11 - 1) : Nat) : Int) - 1 + (52 : Nat)) = 1075 := by omega
  -- As a hypothesis, so that the powers are not evaluated.
  have hpow : ∀ a b : Nat, Nat.pow a b = a ^ b := fun _ _ => rfl
  unfold readFields
  simp only [hpow, hlast, hmiddle, hfirst, hfinite, hnormal, Bool.false_eq_true, if_false, hbias]

lemma Fits.read (hf : Fits m e) :
    (read (.ofModel (.pack (.finite s m e h)))).rat? = some ((s.apply m : Int) * (2 : ℚ) ^ e) := by
  have hbits := hf.toBits (s := s) (h := h)
  obtain ⟨hm, hm', hlow, hhigh⟩ := hf
  have hmant : 2 ^ 52 + (m - 2 ^ 52) = m := by omega
  have hexpo : ((e + 1075).toNat : Int) - 1075 = e := by omega
  rw [Decimal.read, hbits, readFields_normal s.toBitVec.isLt (by omega) (by omega) (by omega), hmant, hexpo]
  cases s <;> simp [Reading.rat?, Sign.toBitVec, Sign.apply]

lemma Fits.shift (hf : Fits m e) : UnpackedFloat.shiftToTargetExponent .binary64 m e .exact = (⟨m, false, false⟩, e) := by
  have htarget : Format.binary64.targetExponent (Float.Model.totalExponent m e) = e := by
    rw [Float.Model.totalExponent, hf.log2]
    obtain ⟨-, -, hlow, hhigh⟩ := hf
    change max (((52 : Nat) : Int) + 1 + e - 53) (-1074) = e
    omega
  unfold UnpackedFloat.shiftToTargetExponent UnpackedFloat.shiftToExponent
  simp only [htarget, Int.sub_self]
  exact Prod.ext rfl (Int.add_zero e)

lemma Fits.round (hf : Fits m e) : UnpackedFloat.roundWithAccuracy .binary64 s m e .exact = .finite s m e h := by
  have hagain : UnpackedFloat.shiftToTargetExponent .binary64 (⟨m, false, false⟩ : ExtendedMantissa).roundedMantissa e
      .exact = _ := hf.shift
  unfold UnpackedFloat.roundWithAccuracy
  rw [hf.shift]
  dsimp only
  rw [hagain]
  exact dif_neg h.ne'

lemma round_eq {n : Nat} (hn : 0 < n) (hsmall : n < 2 ^ 53) : ∃ m e, ∃ h : 0 < m, Fits m e ∧ (m : ℚ) * 2 ^ e = n ∧
    ∀ s, UnpackedFloat.round .binary64 s n 0 = .finite s m e h := by
  obtain ⟨k, hk⟩ : ∃ k, n.log2 + k = 52 := by
    have hlog : n.log2 < 53 := (Nat.log2_lt hn.ne').mpr hsmall
    exact ⟨52 - n.log2, by omega⟩
  have hf : Fits (n * 2 ^ k) (-k) := by
    have hlow := Nat.log2_self_le hn.ne'
    have hhigh := Nat.lt_log2_self (n := n)
    refine ⟨?_, ?_, by omega, by omega⟩
    · rw [← hk, Nat.pow_add]
      exact Nat.mul_le_mul_right _ hlow
    · rw [show 53 = n.log2 + 1 + k by omega, Nat.pow_add]
      exact Nat.mul_lt_mul_of_pos_right hhigh (by positivity)
  have hpos : 0 < n * 2 ^ k := by positivity
  refine ⟨n * 2 ^ k, -k, hpos, hf, ?_, fun s => ?_⟩
  · push_cast
    rw [mul_assoc, ← zpow_natCast, ← zpow_add₀ (by norm_num)]
    simp
  · have htarget : Format.binary64.targetExponent (Float.Model.totalExponent n 0) = -k := by
      change max ((n.log2 : Int) + 1 + 0 - 53) (-1074) = _
      omega
    have hdigits : UnpackedFloat.decreaseExponent n 0 (-k) = (n * 2 ^ k, -(k : Int)) := by
      simp [UnpackedFloat.decreaseExponent, Nat.shiftLeft_eq]
    rw [UnpackedFloat.round, htarget]
    dsimp only
    rw [hdigits]
    exact hf.round

/-- A whole number below 2 ^ 53 in size is a floating point number. -/
lemma exact_ofInt {n : Int} (hsmall : n.natAbs < 2 ^ 53) : (read (ofInt n)).rat? = some (n : ℚ) := by
  obtain ⟨k, rfl | rfl⟩ := Int.eq_nat_or_neg n
  all_goals
    rcases Nat.eq_zero_or_pos k with rfl | hk
    · rfl
    obtain ⟨m, e, h, hf, hvalue, hround⟩ := round_eq hk (by omega)
  · have hmade : ofInt k = .ofModel (.pack (.finite .positive m e h)) := by
      have hcompare : compare (k : Int) 0 = .gt := Int.compare_eq_gt.mpr (by omega)
      rw [ofInt, Float.Model.ofInt, UnpackedFloat.ofInt, UnpackedFloat.normalize, hcompare]
      exact congrArg (Float.ofModel ∘ .pack) (hround .positive)
    rw [hmade, hf.read]
    simp [Sign.apply, hvalue]
  · have hmade : ofInt (-k) = .ofModel (.pack (.finite .negative m e h)) := by
      have hcompare : compare (-k : Int) 0 = .lt := Int.compare_eq_lt.mpr (by omega)
      rw [ofInt, Float.Model.ofInt, UnpackedFloat.ofInt, UnpackedFloat.normalize, hcompare, Int.neg_neg]
      exact congrArg (Float.ofModel ∘ .pack) (hround .negative)
    rw [hmade, hf.read]
    simp [Sign.apply, hvalue]

end Decimal

end SurveyGraph
