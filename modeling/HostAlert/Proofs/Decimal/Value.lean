import HostAlert.Proofs.Decimal.Comparison
import HostAlert.Proofs.Decimal.Finite

/-!
# The exact values of doubles

A finite double stands for one rational number, `valueOf`. The parts that are read off its bits are
those that arithmetic works on (`ofFloat?_eq`), and finite doubles compare as their values do
(`le_iff_valueOf`).
-/

namespace HostAlert.Decimal

open Float.Model (Format UnpackedFloat)
open Float.Model.UnpackedFloat

/-- The rational number that the parts stand for. -/
def Parts.value (p : Parts) : ℚ :=
  (if p.negative then -1 else 1) * p.significand * 2 ^ p.exponent

/-- The exact value of a finite double. -/
def valueOf (x : Float) : ℚ :=
  ((Parts.ofFloat? x).map Parts.value).getD 0

/-! ### Parts -/

def isNegative : Sign → Bool
  | .negative => true
  | .positive => false

/-- The parts of a number that arithmetic works on. -/
def Parts.ofUnpacked? : UnpackedFloat → Option Parts
  | .finite s m e _ => some ⟨isNegative s, m, e⟩
  | .zero s => some ⟨isNegative s, 0, -1074⟩
  | .infinity _ | .notANumber => none

theorem unpackMantissa_toNat (b : BitVec Format.binary64.numBits) :
    (unpackMantissa b).toNat = b.toNat % 2 ^ 52 := by
  simp [unpackMantissa, BitVec.extractLsb_toNat]

theorem isNegative_unpackSign (b : BitVec Format.binary64.numBits) :
    isNegative (Sign.ofBitVec (unpackSign b)) = decide (2 ^ 63 ≤ b.toNat) := by
  have hlt : b.toNat < 2 ^ 64 := b.isLt
  have hsign : (unpackSign b).toNat = b.toNat / 2 ^ 63 % 2 := by
    simp [unpackSign, BitVec.extractLsb_toNat, Nat.shiftRight_eq_div_pow]
  have hzero : unpackSign b = 0#1 ↔ b.toNat < 2 ^ 63 := by
    rw [← BitVec.toNat_inj, hsign]
    show _ = 0 ↔ _
    omega
  unfold Sign.ofBitVec
  split
  · next h =>
    rw [hzero] at h
    exact (decide_eq_false (Nat.not_le.mpr h)).symm
  · next h =>
    rw [hzero] at h
    exact (decide_eq_true (Nat.not_lt.mp h)).symm

/-- The parts read off the bits are those that arithmetic works on. -/
theorem ofFloat?_eq (x : Float) : Parts.ofFloat? x = Parts.ofUnpacked? x.toModel.unpack := by
  obtain ⟨b, hb⟩ : ∃ b : BitVec Format.binary64.numBits, b = x.toBits.toBitVec := ⟨_, rfl⟩
  have hexponent := unpackExponent_toNat b
  have hmantissa := unpackMantissa_toNat b
  have hsign := isNegative_unpackSign b
  have hfield {n : Nat} (hn : n < 2 ^ 11) :
      @unpackExponent .binary64 b = BitVec.ofNat 11 n ↔ b.toNat / 2 ^ 52 % 2 ^ 11 = n := by
    rw [← BitVec.toNat_inj, hexponent, BitVec.toNat_ofNat, Nat.mod_eq_of_lt hn]
  have hones : @unpackExponent .binary64 b = -1#11 ↔ b.toNat / 2 ^ 52 % 2 ^ 11 = 0x7FF :=
    hfield (n := 0x7FF) (by decide)
  have hnone : @unpackExponent .binary64 b = 0#11 ↔ b.toNat / 2 ^ 52 % 2 ^ 11 = 0 :=
    hfield (n := 0) (by decide)
  have hparts : Parts.ofFloat? x =
      if b.toNat / 2 ^ 52 % 2 ^ 11 = 0x7FF then none
      else if b.toNat / 2 ^ 52 % 2 ^ 11 = 0 then
        some ⟨decide (2 ^ 63 ≤ b.toNat), b.toNat % 2 ^ 52, -1074⟩
      else some ⟨decide (2 ^ 63 ≤ b.toNat), b.toNat % 2 ^ 52 + 2 ^ 52,
        ((b.toNat / 2 ^ 52 % 2 ^ 11 : Nat) : Int) - 1075⟩ := by
    rw [hb]
    rfl
  show _ = Parts.ofUnpacked? (unpack .binary64 x.toBits.toBitVec)
  rw [hparts, ← hb, unpack]
  dsimp only
  split
  · next h =>
    rw [if_pos (hones.mpr h)]
    split <;> rfl
  · next h =>
    rw [if_neg (mt hones.mp h)]
    split
    · next h0 =>
      rw [if_pos (hnone.mpr h0)]
      split
      · next hm =>
        rw [← hmantissa, hm, Parts.ofUnpacked?, hsign]
        rfl
      · rw [Parts.ofUnpacked?, hsign, hmantissa, hexponent, h0]
        rfl
    · next h0 =>
      rw [if_neg (mt hnone.mp h0), Parts.ofUnpacked?, hsign, hexponent]
      rw [toNat_significand, hmantissa]
      rfl

theorem valueOf_eq {x : Float} {p : Parts} (h : Parts.ofFloat? x = some p) :
    valueOf x = p.value := by
  rw [valueOf, h]
  rfl

/-- A finite double has parts. -/
theorem exists_parts {x : Float} (h : x.isFinite = true) : ∃ p, Parts.ofFloat? x = some p := by
  rw [ofFloat?_eq]
  obtain ⟨s, hu⟩ | ⟨s, m, e, hm, hu⟩ := finite_cases (isFinite_iff.mp h) <;> rw [hu]
  · exact ⟨_, rfl⟩
  · exact ⟨_, rfl⟩

/-! ### Order -/

/-- The parts as a double has them: at most 53 bits, and all of them unless the exponent is the
least one. -/
structure Parts.IsCanonical (p : Parts) : Prop where
  lt : p.significand < 2 ^ 53
  low : -1074 ≤ p.exponent
  full : p.exponent = -1074 ∨ 2 ^ 52 ≤ p.significand

theorem isCanonical_of_ofFloat? {x : Float} {p : Parts} (h : Parts.ofFloat? x = some p) :
    p.IsCanonical := by
  unfold Parts.ofFloat? hiddenBit at h
  dsimp only at h
  split at h
  · cases h
  · split at h <;> cases h
    · refine ⟨?_, Int.le_refl _, .inl rfl⟩
      dsimp only
      omega
    · refine ⟨?_, ?_, .inr ?_⟩ <;> dsimp only <;> omega

def Parts.size (p : Parts) : ℚ :=
  p.significand * 2 ^ p.exponent

theorem Parts.value_eq (p : Parts) : p.value = if p.negative then -p.size else p.size := by
  rw [value, size]
  split <;> ring

theorem Parts.size_nonneg (p : Parts) : 0 ≤ p.size :=
  mul_nonneg (Nat.cast_nonneg _) (zpow_pos two_pos _).le

theorem Parts.IsCanonical.size_lt {p : Parts} (hp : p.IsCanonical) {e : ℤ} (h : p.exponent < e) :
    p.size < 2 ^ 52 * 2 ^ e := by
  have hlt : (p.significand : ℚ) < 2 ^ 53 := by
    exact_mod_cast hp.lt
  calc (p.significand : ℚ) * 2 ^ p.exponent < 2 ^ 53 * 2 ^ p.exponent :=
        mul_lt_mul_of_pos_right hlt (zpow_pos two_pos _)
    _ = 2 ^ 52 * 2 ^ (p.exponent + 1) := by
      rw [zpow_add₀ two_ne_zero]
      ring
    _ ≤ 2 ^ 52 * 2 ^ e :=
      mul_le_mul_of_nonneg_left (zpow_le_zpow_right₀ one_le_two h) (by positivity)

theorem size_lt_of_exponent_lt {p q : Parts} (hp : p.IsCanonical) (hq : q.IsCanonical)
    (h : p.exponent < q.exponent) : p.size < q.size := by
  have hfull : (2 : ℚ) ^ 52 ≤ q.significand := by
    obtain hlow | hfull := hq.full
    · have := hp.low
      omega
    · exact_mod_cast hfull
  exact (hp.size_lt h).trans_le (mul_le_mul_of_nonneg_right hfull (zpow_pos two_pos _).le)

theorem compare_size {p q : Parts} (hp : p.IsCanonical) (hq : q.IsCanonical) :
    (compare p.exponent q.exponent).then (compare p.significand q.significand) =
      compare p.size q.size := by
  obtain h | h | h := lt_trichotomy p.exponent q.exponent
  · rw [compare_lt_iff_lt.mpr h, compare_lt_iff_lt.mpr (size_lt_of_exponent_lt hp hq h)]
    rfl
  · have hpos : (0 : ℚ) < 2 ^ q.exponent := zpow_pos two_pos _
    rw [compare_eq_iff_eq.mpr h, Parts.size, Parts.size, h]
    obtain hs | hs | hs := lt_trichotomy p.significand q.significand
    · rw [compare_lt_iff_lt.mpr hs, compare_lt_iff_lt.mpr]
      · rfl
      · exact mul_lt_mul_of_pos_right (by exact_mod_cast hs) hpos
    · rw [hs, compare_eq_iff_eq.mpr rfl, compare_eq_iff_eq.mpr rfl]
      rfl
    · rw [compare_gt_iff_gt.mpr hs, compare_gt_iff_gt.mpr]
      · rfl
      · exact mul_lt_mul_of_pos_right (by exact_mod_cast hs) hpos
  · rw [compare_gt_iff_gt.mpr h, compare_gt_iff_gt.mpr (size_lt_of_exponent_lt hq hp h)]
    rfl

theorem Parts.size_pos {p : Parts} (h : 0 < p.significand) : 0 < p.size :=
  mul_pos (by exact_mod_cast h) (zpow_pos two_pos _)

theorem compare_neg (a b : ℚ) : compare (-a) (-b) = (compare a b).swap := by
  obtain h | h | h := lt_trichotomy a b
  · rw [compare_lt_iff_lt.mpr h, compare_gt_iff_gt.mpr (neg_lt_neg h)]
    rfl
  · rw [h, compare_eq_iff_eq.mpr rfl, compare_eq_iff_eq.mpr rfl]
    rfl
  · rw [compare_gt_iff_gt.mpr h, compare_lt_iff_lt.mpr (neg_lt_neg h)]
    rfl

/-- Finite doubles compare as their values do. -/
theorem compare_valueOf {x y : Float} (hx : x.isFinite = true) (hy : y.isFinite = true) :
    x.toModel.unpack.compare y.toModel.unpack = some (compare (valueOf x) (valueOf y)) := by
  have hparts {x : Float} {u : UnpackedFloat} {p : Parts} (hu : x.toModel.unpack = u)
      (hp : Parts.ofUnpacked? u = some p) : valueOf x = p.value ∧ p.IsCanonical := by
    have h : Parts.ofFloat? x = some p := by rw [ofFloat?_eq, hu, hp]
    exact ⟨valueOf_eq h, isCanonical_of_ofFloat? h⟩
  have hzero (s : Sign) : (⟨isNegative s, 0, -1074⟩ : Parts).value = 0 := by
    simp [Parts.value]
  obtain ⟨s, hu⟩ | ⟨s, m, e, hm, hu⟩ := finite_cases (isFinite_iff.mp hx) <;>
    obtain ⟨t, hv⟩ | ⟨t, n, f, hn, hv⟩ := finite_cases (isFinite_iff.mp hy) <;>
    obtain ⟨hx', hp⟩ := hparts hu rfl <;> obtain ⟨hy', hq⟩ := hparts hv rfl <;>
    rw [hu, hv, hx', hy']
  · rw [hzero, hzero, compare_eq_iff_eq.mpr rfl]
    rfl
  · have hpos := Parts.size_pos (p := ⟨isNegative t, n, f⟩) hn
    rw [hzero, Parts.value_eq]
    cases t
    · exact congrArg some (compare_gt_iff_gt.mpr (neg_lt_zero.mpr hpos)).symm
    · exact congrArg some (compare_lt_iff_lt.mpr hpos).symm
  · have hpos := Parts.size_pos (p := ⟨isNegative s, m, e⟩) hm
    rw [hzero, Parts.value_eq]
    cases s
    · exact congrArg some (compare_lt_iff_lt.mpr (neg_lt_zero.mpr hpos)).symm
    · exact congrArg some (compare_gt_iff_gt.mpr hpos).symm
  · have hm' := Parts.size_pos (p := ⟨isNegative s, m, e⟩) hm
    have hn' := Parts.size_pos (p := ⟨isNegative t, n, f⟩) hn
    have hsize := compare_size hp hq
    rw [Parts.value_eq, Parts.value_eq]
    cases s <;> cases t
    · exact congrArg some ((congrArg Ordering.swap hsize).trans (compare_neg _ _).symm)
    · exact congrArg some (compare_lt_iff_lt.mpr ((neg_lt_zero.mpr hm').trans hn')).symm
    · exact congrArg some (compare_gt_iff_gt.mpr ((neg_lt_zero.mpr hn').trans hm')).symm
    · exact congrArg some hsize

theorem le_iff_valueOf {x y : Float} (hx : x.isFinite = true) (hy : y.isFinite = true) :
    x ≤ y ↔ valueOf x ≤ valueOf y := by
  rw [le_iff, compare_valueOf hx hy, Option.any_some, ← compare_le_iff_le, Ordering.isLE_iff_ne_gt]

/-! ### Doubles that are no finite numbers -/

theorem isFinite_eq_false_iff {x : Float} :
    x.isFinite = false ↔ x.isNaN = true ∨ x.isInf = true := by
  show x.toModel.unpack.isFinite = false ↔
    x.toModel.unpack.isNaN = true ∨ x.toModel.unpack.isInf = true
  cases x.toModel.unpack <;> simp [UnpackedFloat.isFinite, UnpackedFloat.isNaN, UnpackedFloat.isInf]

theorem le_zero_of_le {x y : Float} (h : x ≤ y) (hy : y.isFinite = true)
    (hx : x.isFinite = false) : x ≤ 0 := by
  have hinfinite : x.toModel.unpack.isFinite = false := hx
  rw [le_iff] at h ⊢
  cases hu : x.toModel.unpack with
  | zero | finite =>
    rw [hu] at hinfinite
    cases hinfinite
  | notANumber =>
    rw [hu] at h
    cases h
  | infinity s =>
    cases s with
    | negative => rfl
    | positive =>
      rw [hu] at h
      obtain ⟨t, hv⟩ | ⟨t, m, e, hm, hv⟩ := finite_cases (isFinite_iff.mp hy) <;>
        rw [hv] at h <;> cases t <;> cases h

end HostAlert.Decimal
