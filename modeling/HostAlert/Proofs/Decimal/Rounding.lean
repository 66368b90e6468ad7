import Mathlib

/-!
# Rounding to doubles

`m · 2 ^ e` is rounded to the exponent `target m e`, where a significand that is rounded up to one
bit more is shifted once again (`roundWithAccuracy_eq`). What stays below 2^1023 fits the format
(`fits_roundWithAccuracy`), and from 53 bits on the rounded significand has 53 bits
(`roundWithAccuracy_normal`).
-/

namespace HostAlert.Decimal

open Float.Model (Format UnpackedFloat totalExponent)
open Float.Model.UnpackedFloat

/-! ### Sizes of significands -/

theorem log2_le_of_le {n k : Nat} (h : n ≤ 2 ^ k) : n.log2 ≤ k := by
  obtain rfl | hpos := Nat.eq_zero_or_pos n
  · exact Nat.zero_le k
  · have hlt : n < 2 ^ (k + 1) := Nat.lt_of_le_of_lt h (Nat.pow_lt_pow_succ (by decide))
    exact Nat.lt_succ_iff.mp ((Nat.log2_lt (Nat.ne_of_gt hpos)).mpr hlt)

theorem log2_le_log2 {m n : Nat} (hm : m ≠ 0) (h : m ≤ n) : m.log2 ≤ n.log2 := by
  have hn : n ≠ 0 := by omega
  exact (Nat.le_log2 hn).mpr (Nat.le_trans (Nat.log2_self_le hm) h)

theorem shiftLeft_lt (m k : Nat) : m <<< k < 2 ^ (m.log2 + k + 1) := by
  rw [Nat.shiftLeft_eq, Nat.add_right_comm, Nat.pow_add]
  exact Nat.mul_lt_mul_of_pos_right Nat.lt_log2_self (Nat.two_pow_pos k)

theorem log2_shiftLeft_le {m : Nat} (h : 0 < m) (k : Nat) : (m <<< k).log2 ≤ m.log2 + k := by
  have hne : m <<< k ≠ 0 := by
    rw [Nat.shiftLeft_eq]
    exact Nat.ne_of_gt (Nat.mul_pos h (Nat.two_pow_pos k))
  exact Nat.lt_succ_iff.mp ((Nat.log2_lt hne).mpr (shiftLeft_lt m k))

theorem log2_shiftLeft_div_le (m k : Nat) {d : Nat} (h : 0 < d) :
    ((m <<< k) / d).log2 ≤ m.log2 + k + 1 - d.log2 := by
  refine log2_le_of_le (Nat.le_of_lt ((Nat.div_lt_iff_lt_mul h).mpr ?_))
  calc m <<< k < 2 ^ (m.log2 + k + 1) := shiftLeft_lt m k
    _ ≤ 2 ^ (m.log2 + k + 1 - d.log2) * 2 ^ d.log2 := by
      rw [← Nat.pow_add]
      exact Nat.pow_le_pow_right (by decide) (by omega)
    _ ≤ 2 ^ (m.log2 + k + 1 - d.log2) * d :=
      Nat.mul_le_mul_left _ (Nat.log2_self_le (Nat.ne_of_gt h))

theorem log2_two_pow_mul_lt (k : Nat) {m b : Nat} (hm : 0 < m) (h : m < 2 ^ b) :
    (2 ^ k * m).log2 < k + b := by
  have hne : 2 ^ k * m ≠ 0 := Nat.ne_of_gt (Nat.mul_pos (Nat.two_pow_pos k) hm)
  rw [Nat.log2_lt hne, Nat.pow_add]
  exact (Nat.mul_lt_mul_left (Nat.two_pow_pos k)).mpr h

theorem log2_div_two_pow {m k b : Nat} (hm : m ≠ 0) (h : m.log2 = b + k) :
    (m / 2 ^ k).log2 = b := by
  have hlow : 2 ^ b ≤ m / 2 ^ k := by
    rw [Nat.le_div_iff_mul_le (Nat.two_pow_pos k), ← Nat.pow_add, ← h]
    exact Nat.log2_self_le hm
  have hhigh : m / 2 ^ k < 2 ^ (b + 1) := by
    rw [Nat.div_lt_iff_lt_mul (Nat.two_pow_pos k), ← Nat.pow_add, Nat.add_right_comm, ← h]
    exact Nat.lt_log2_self
  have hne : m / 2 ^ k ≠ 0 := Nat.ne_of_gt (Nat.lt_of_lt_of_le (Nat.two_pow_pos b) hlow)
  exact (Nat.log2_eq_iff hne).mpr ⟨hlow, hhigh⟩

/-- A significand without its last bits has that many bits fewer, or one more when rounded up. -/
theorem div_two_pow_succ_le (m k : Nat) : m / 2 ^ k + 1 ≤ 2 ^ (m.log2 + 1 - k) := by
  refine (Nat.div_lt_iff_lt_mul (Nat.two_pow_pos k)).mpr ?_
  rw [← Nat.pow_add]
  exact Nat.lt_of_lt_of_le Nat.lt_log2_self (Nat.pow_le_pow_right (by decide) (by omega))

/-! ### One rounding -/

/-- The exponent to which `m · 2 ^ e` is rounded. -/
def target (m : Nat) (e : Int) : Int :=
  max (m.log2 + e - 52) (-1074)

theorem targetExponent_eq (m : Nat) (e : Int) :
    Format.binary64.targetExponent (totalExponent m e) = target m e := by
  show max ((m.log2 : Int) + 1 + e - 53) (-1074) = _
  rw [target]
  omega

theorem shift_mantissa (em : ExtendedMantissa) (k : Nat) :
    (em >>> k).mantissa = em.mantissa / 2 ^ k := by
  induction k with
  | zero => exact (Nat.div_one _).symm
  | succ k ih =>
    show (em >>> k).mantissa / 2 = _
    rw [ih, Nat.div_div_eq_div_mul, Nat.pow_succ]

theorem shiftToTargetExponent_mantissa (m : Nat) (e : Int) (a : Accuracy) :
    (shiftToTargetExponent .binary64 m e a).1.mantissa = m / 2 ^ (target m e - e).toNat := by
  have hstart : (ExtendedMantissa.ofMantissaAndAccuracy m a).mantissa = m := by
    cases a with
    | exact => rfl
    | inexact o => cases o <;> rfl
  rw [← targetExponent_eq]
  exact (shift_mantissa _ _).trans (by rw [hstart])

theorem shiftToTargetExponent_exponent (m : Nat) (e : Int) (a : Accuracy) :
    (shiftToTargetExponent .binary64 m e a).2 = max e (target m e) := by
  show e + ((Format.binary64.targetExponent (totalExponent m e) - e).toNat : Int) = _
  rw [targetExponent_eq]
  omega

theorem roundedMantissa_bounds (em : ExtendedMantissa) :
    em.mantissa ≤ em.roundedMantissa ∧ em.roundedMantissa ≤ em.mantissa + 1 := by
  obtain ⟨m, round, sticky⟩ := em
  cases round <;> cases sticky <;>
    simp only [ExtendedMantissa.roundedMantissa, ExtendedMantissa.accuracy,
      Accuracy.roundToNearestEven] <;> omega

/-- Rounding drops bits, adds at most one and then drops the bit that this may have made. -/
theorem roundWithAccuracy_eq (s : Sign) (m : Nat) (e : Int) (a : Accuracy) : ∃ r e₁,
    m / 2 ^ (target m e - e).toNat ≤ r ∧ r ≤ m / 2 ^ (target m e - e).toNat + 1 ∧
      e₁ = max e (target m e) ∧
      roundWithAccuracy .binary64 s m e a =
        if h : r / 2 ^ (target r e₁ - e₁).toNat = 0 then .zero s
        else .finite s _ (max e₁ (target r e₁)) (Nat.pos_of_ne_zero h) := by
  obtain ⟨hlow, hhigh⟩ := roundedMantissa_bounds (shiftToTargetExponent .binary64 m e a).1
  rw [shiftToTargetExponent_mantissa] at hlow hhigh
  refine ⟨_, _, hlow, hhigh, shiftToTargetExponent_exponent m e a, ?_⟩
  simp only [roundWithAccuracy, shiftToTargetExponent_mantissa, shiftToTargetExponent_exponent]

theorem isFinite_roundWithAccuracy (s : Sign) (m : Nat) (e : Int) (a : Accuracy) :
    (roundWithAccuracy .binary64 s m e a).isFinite = true := by
  rw [roundWithAccuracy]
  dsimp only
  split <;> rfl

/-- A rounded number that is stored as a finite double. -/
def Fits : UnpackedFloat → Prop
  | .zero _ => True
  | .finite _ _ e _ => e ≤ 971
  | _ => False

theorem fits_roundWithAccuracy (s : Sign) {m : Nat} {e : Int} (a : Accuracy)
    (total : m.log2 + e ≤ 1022) (exponent : e ≤ 971) :
    Fits (roundWithAccuracy .binary64 s m e a) := by
  obtain ⟨r, e₁, -, hhigh, he₁, hround⟩ := roundWithAccuracy_eq s m e a
  have hlog := log2_le_of_le (Nat.le_trans hhigh (div_two_pow_succ_le m _))
  rw [hround]
  split
  · trivial
  · show max e₁ (target r e₁) ≤ 971
    rw [target] at *
    omega

/-- From 53 bits on, a significand is rounded to 53 bits, and the number hardly gets smaller. -/
theorem roundWithAccuracy_normal (s : Sign) {m : Nat} {e : Int} (a : Accuracy)
    (bits : 52 ≤ m.log2) (low : -1022 ≤ m.log2 + e) : ∃ m' e' h,
      roundWithAccuracy .binary64 s m e a = .finite s m' e' h ∧ m'.log2 = 52 ∧
        m.log2 + e ≤ 52 + e' := by
  have positive {n : Nat} (h : 52 ≤ n.log2) : n ≠ 0 := by
    rintro rfl
    exact absurd h (by decide)
  obtain ⟨r, e₁, hlow, -, he₁, hround⟩ := roundWithAccuracy_eq s m e a
  have hfirst : (m / 2 ^ (target m e - e).toNat).log2 = 52 :=
    log2_div_two_pow (positive bits) (by rw [target]; omega)
  have hr : 52 ≤ r.log2 :=
    hfirst ▸ log2_le_log2 (positive (Nat.le_of_eq hfirst.symm)) hlow
  have hsecond : (r / 2 ^ (target r e₁ - e₁).toNat).log2 = 52 :=
    log2_div_two_pow (positive hr) (by rw [target] at *; omega)
  rw [hround, dif_neg (positive (Nat.le_of_eq hsecond.symm))]
  exact ⟨_, _, _, rfl, hsecond, by rw [target] at he₁; omega⟩

end HostAlert.Decimal
