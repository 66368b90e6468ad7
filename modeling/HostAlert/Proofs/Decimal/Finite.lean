import HostAlert.Decimal.Double
import HostAlert.Proofs.Decimal.Rounding

/-!
# Finite doubles

A double is finite unless all bits of its exponent field are set, and then it has no exact value
(`ofFloat?_eq_none`). A rounded number that fits is stored as a finite double (`isFinite_pack`), and
one of 53 bits is read back as it was stored (`unpack_pack_normal`). So whole numbers of 64 bits are
finite (`isFinite_toFloat`), and so are the quotients of finite doubles by large ones
(`isFinite_div`). A product of finite doubles is finite or infinite, but no NaN (`isFinite_mul`).
-/

namespace HostAlert.Decimal

open Float.Model (Format UnpackedFloat totalExponent)
open Float.Model.UnpackedFloat

/-! ### The fields of a double -/

theorem isFinite_iff {x : Float} : x.isFinite = true ↔ x.toModel.unpack.isFinite = true :=
  Iff.rfl

theorem isFinite_unpack {b : BitVec Format.binary64.numBits} :
    (unpack .binary64 b).isFinite = true ↔ unpackExponent b ≠ -1#11 := by
  unfold unpack
  dsimp only
  split
  · split <;> simp [UnpackedFloat.isFinite, *]
  · split
    · split <;> simp [UnpackedFloat.isFinite, *]
    · exact ⟨fun _ => ‹_›, fun _ => rfl⟩

theorem unpackExponent_toNat (b : BitVec Format.binary64.numBits) :
    (unpackExponent b).toNat = b.toNat / 2 ^ 52 % 2 ^ 11 := by
  simp [unpackExponent, BitVec.extractLsb_toNat, Nat.shiftRight_eq_div_pow]

/-- A double that is no finite number has no exact value. -/
theorem ofFloat?_eq_none {x : Float} (h : x.isFinite = false) : Parts.ofFloat? x = none := by
  have hx : (unpack .binary64 x.toBits.toBitVec).isFinite = false := h
  have hfield : @unpackExponent .binary64 x.toBits.toBitVec = -1#11 := by
    rw [← Bool.not_eq_true, isFinite_unpack] at hx
    exact Decidable.not_not.mp hx
  have hnat := congrArg BitVec.toNat hfield
  rw [unpackExponent_toNat] at hnat
  exact if_pos hnat

theorem finite_cases {u : UnpackedFloat} (h : u.isFinite = true) :
    (∃ s, u = .zero s) ∨ ∃ s m e hm, u = .finite s m e hm := by
  cases u with
  | notANumber | infinity => cases h
  | zero s => exact .inl ⟨s, rfl⟩
  | finite s m e hm => exact .inr ⟨s, m, e, hm, rfl⟩

theorem unpack_bounds {b : BitVec Format.binary64.numBits} {s : Sign} {m : Nat} {e : Int}
    {h : 0 < m} (hb : unpack .binary64 b = .finite s m e h) : m.log2 ≤ 52 ∧ e ≤ 971 := by
  rw [unpack] at hb
  dsimp only at hb
  split at hb
  · split at hb <;> cases hb
  · rename_i hones
    split at hb
    · rename_i hzero
      split at hb
      · cases hb
      · cases hb
        refine ⟨log2_le_of_le (Nat.le_of_lt (unpackMantissa b).isLt), ?_⟩
        rw [hzero]
        decide
    · cases hb
      have hbits := (1#1 ++ unpackMantissa b).isLt
      have hlt : (unpackExponent b).toNat < 2 ^ 11 := (unpackExponent b).isLt
      have hfield : (unpackExponent b).toNat ≠ 2 ^ 11 - 1 := fun heq =>
        hones (BitVec.eq_of_toNat_eq heq)
      refine ⟨Nat.lt_succ_iff.mp ((Nat.log2_lt (Nat.ne_of_gt h)).mpr hbits), ?_⟩
      show ((unpackExponent b).toNat : Int) - (1023 + 52) ≤ 971
      omega

theorem fits_unpack {x : Float} (h : x.isFinite = true) : Fits x.toModel.unpack := by
  obtain ⟨s, hu⟩ | ⟨s, m, e, hm, hu⟩ := finite_cases (isFinite_iff.mp h)
  · rw [hu]
    trivial
  · rw [hu]
    exact (unpack_bounds hu).2

/-! ### Storing a rounded number -/

theorem isFinite_packComponents {s : Sign} {e : BitVec 11} {m : BitVec 52} :
    (unpack .binary64 (packComponents .binary64 s e m)).isFinite = true ↔ e ≠ -1#11 := by
  rw [isFinite_unpack, unpackExponent_packComponents]

theorem isFinite_pack {u : UnpackedFloat} (h : Fits u) :
    (Float.ofModel (.pack u)).isFinite = true := by
  show (unpack .binary64 (UnpackedFloat.pack .binary64 u)).isFinite = true
  fun_cases UnpackedFloat.pack Format.binary64 u with
  | case1 | case2 => cases h
  | case3 s => exact isFinite_packComponents.mpr (by decide)
  | case4 s m e hm biased hlarge =>
    have hexponent : e ≤ 971 := h
    have hover : 2 ^ 11 ≤ (e + 1023 + 52).toNat + 1 := hlarge
    omega
  | case5 s m e hm bits biased hsmall =>
    have hunder : ¬ 2 ^ 11 ≤ biased + 1 := hsmall
    refine isFinite_packComponents.mpr fun hones => ?_
    have hnat : biased % 2 ^ 11 = 2 ^ 11 - 1 := congrArg BitVec.toNat hones
    omega
  | case6 => exact isFinite_packComponents.mpr (by decide)

theorem isInf_packedInfinity (s : Sign) :
    (unpack .binary64 (packedInfinity .binary64 s)).isInf = true := by
  cases s <;> decide

/-- A number that is too large is stored as infinite, and no number as a NaN. -/
theorem isFinite_pack_of_isInf_eq_false {u : UnpackedFloat} (h : u.isFinite = true)
    (notInf : (Float.ofModel (.pack u)).isInf = false) :
    (Float.ofModel (.pack u)).isFinite = true := by
  obtain ⟨s, rfl⟩ | ⟨s, m, e, hm, rfl⟩ := finite_cases h
  · exact isFinite_pack (u := .zero s) trivial
  · refine isFinite_pack (u := .finite s m e hm) ?_
    show e ≤ 971
    refine Int.not_lt.mp fun hexponent => ?_
    have hover : 2 ^ 11 ≤ (e + 1023 + 52).toNat + 1 := by omega
    have hpack : UnpackedFloat.pack .binary64 (.finite s m e hm) = packedInfinity .binary64 s :=
      if_pos hover
    have hinf := isInf_packedInfinity s
    rw [← hpack] at hinf
    exact Bool.false_ne_true (notInf.symm.trans hinf)

/-! ### Reading back what is stored -/

/-- The bit that is not stored counts 2^52. -/
theorem toNat_significand (m : BitVec 52) : (1#1 ++ m).toNat = m.toNat + 2 ^ 52 := by
  rw [BitVec.toNat_append, ← Nat.shiftLeft_add_eq_or_of_lt m.isLt]
  exact Nat.add_comm _ _

theorem exponentField_ne {b n : Nat} (hb : b < 2 ^ 11) (hn : n < 2 ^ 11) (h : b ≠ n) :
    BitVec.ofNat 11 b ≠ BitVec.ofNat 11 n := by
  intro heq
  have hcast := congrArg BitVec.toNat heq
  rw [BitVec.toNat_ofNat, BitVec.toNat_ofNat, Nat.mod_eq_of_lt hb, Nat.mod_eq_of_lt hn] at hcast
  exact h hcast

theorem pack_normal (s : Sign) {m : Nat} {e : Int} (h : 0 < m) (bits : m.log2 = 52)
    (high : e ≤ 971) : UnpackedFloat.pack .binary64 (.finite s m e h) =
      packComponents .binary64 s (BitVec.ofNat 11 (e + 1023 + 52).toNat) (BitVec.ofNat 52 m) := by
  have hunder : ¬ 2 ^ 11 ≤ (e + 1023 + 52).toNat + 1 := by omega
  have hnormal : m.log2 + 1 = Format.binary64.mantissaBits := by
    rw [bits]
    rfl
  rw [UnpackedFloat.pack]
  exact (if_neg hunder).trans (if_pos hnormal)

theorem sign_of_toBitVec (s : Sign) : Sign.ofBitVec s.toBitVec = s := by
  cases s <;> rfl

theorem unpackSign_packComponents {spec : Format} (s : Sign) (e : BitVec spec.exponentBits)
    (m : BitVec spec.mantissaBitsWithoutImplicit) :
    unpackSign (packComponents spec s e m) = s.toBitVec := by
  refine BitVec.eq_of_getLsbD_eq fun i hi => ?_
  obtain rfl : i = 0 := by omega
  simp [unpackSign, packComponents, BitVec.getLsbD_append, BitVec.getElem_append]

theorem unpack_pack_normal (s : Sign) {m : Nat} {e : Int} (h : 0 < m) (bits : m.log2 = 52)
    (low : -1074 ≤ e) (high : e ≤ 971) :
    unpack .binary64 (UnpackedFloat.pack .binary64 (.finite s m e h)) = .finite s m e h := by
  obtain ⟨b, hb⟩ : ∃ b, b = (e + 1023 + 52).toNat := ⟨_, rfl⟩
  have hlt : b < 2 ^ 11 := by omega
  have hnat : (BitVec.ofNat 11 b).toNat = b := by
    rw [BitVec.toNat_ofNat, Nat.mod_eq_of_lt hlt]
  have hones : BitVec.ofNat 11 b ≠ -1#11 := exponentField_ne (n := 2047) hlt (by decide) (by omega)
  have hzero : BitVec.ofNat 11 b ≠ 0#11 := exponentField_ne (n := 0) hlt (by decide) (by omega)
  have hlow : 2 ^ 52 ≤ m := bits ▸ Nat.log2_self_le (Nat.ne_of_gt h)
  have hhigh : m < 2 ^ 53 := (Nat.log2_lt (Nat.ne_of_gt h)).mp (by omega)
  have hsignificand : (1#1 ++ BitVec.ofNat 52 m).toNat = m := by
    rw [toNat_significand, BitVec.toNat_ofNat]
    omega
  rw [pack_normal s h bits high, ← hb, unpack]
  simp only [unpackExponent_packComponents, unpackMantissa_packComponents,
    unpackSign_packComponents, sign_of_toBitVec, if_neg hones, if_neg hzero, hsignificand, hnat]
  congr 1
  show (b : Int) - (1023 + 52) = e
  omega

/-! ### Large doubles -/

/-- Whether a number is finite and its absolute value is eight or more. -/
def isLarge : UnpackedFloat → Bool
  | .finite _ m e _ => decide (3 ≤ m.log2 + e)
  | _ => false

theorem large_cases {u : UnpackedFloat} (h : isLarge u = true) :
    ∃ s m e hm, u = .finite s m e hm ∧ 3 ≤ m.log2 + e := by
  cases u with
  | notANumber | infinity | zero => cases h
  | finite s m e hm => exact ⟨s, m, e, hm, rfl, of_decide_eq_true h⟩

theorem isFinite_of_isLarge {x : Float} (h : isLarge x.toModel.unpack = true) :
    x.isFinite = true := by
  obtain ⟨s, m, e, hm, hu, -⟩ := large_cases h
  rw [isFinite_iff, hu]
  rfl

theorem isLarge_pack_round (s : Sign) {m : Nat} {e : Int} (a : Accuracy) (bits : 52 ≤ m.log2)
    (low : 3 ≤ m.log2 + e) (total : m.log2 + e ≤ 1022) (exponent : e ≤ 971) :
    isLarge (Float.Model.pack (roundWithAccuracy .binary64 s m e a)).unpack = true := by
  have hfits := fits_roundWithAccuracy s a total exponent
  have hmin : -1022 ≤ m.log2 + e := by omega
  obtain ⟨m', e', hm', hround, hbits, hlow⟩ := roundWithAccuracy_normal s a bits hmin
  rw [hround] at hfits ⊢
  have hhigh : e' ≤ 971 := hfits
  show isLarge (unpack .binary64 (UnpackedFloat.pack .binary64 _)) = true
  rw [unpack_pack_normal s hm' hbits (by omega) hhigh, isLarge, hbits]
  exact decide_eq_true (by omega)

/-! ### Operations -/

theorem isFinite_neg {x : Float} (h : x.isFinite = true) : (-x).isFinite = true := by
  have hneg : Fits x.toModel.unpack.neg := by
    have hfits := fits_unpack h
    cases hu : x.toModel.unpack <;> rw [hu] at hfits <;> exact hfits
  exact isFinite_pack hneg

theorem isFinite_toFloat (n : UInt64) : n.toFloat.isFinite = true := by
  refine isFinite_pack ?_
  show Fits (UnpackedFloat.normalize .binary64 (n.toNat : Int) 0 .positive)
  rw [UnpackedFloat.normalize]
  split
  · rename_i h
    rw [Int.compare_eq_lt] at h
    omega
  · trivial
  · rename_i h
    rw [Int.compare_eq_gt, Int.natCast_pos] at h
    have hlog : n.toNat.log2 ≤ 64 := log2_le_of_le (Nat.le_of_lt n.toNat_lt)
    have hshift := log2_shiftLeft_le h
      (0 - Format.binary64.targetExponent (totalExponent n.toNat 0)).toNat
    exact fits_roundWithAccuracy .positive .exact (by rw [Int.toNat_natCast]; omega) (by omega)

theorem fits_div {s₁ s₂ : Sign} {m₁ m₂ : Nat} {e₁ e₂ : Int} {h₁ : 0 < m₁} {h₂ : 0 < m₂}
    (bits : m₁.log2 ≤ 52) (exponent : e₁ ≤ 971) (large : 3 ≤ m₂.log2 + e₂) :
    Fits (div .binary64 (.finite s₁ m₁ e₁ h₁) (.finite s₂ m₂ e₂ h₂)) := by
  obtain ⟨t, ht⟩ : ∃ t, t = min (e₁ - e₂)
      (Format.binary64.targetExponent (totalExponent m₁ e₁ - totalExponent m₂ e₂)) := ⟨_, rfl⟩
  have hlog := log2_shiftLeft_div_le m₁ (e₁ - e₂ - t).toNat h₂
  have hbound : t ≤ max (m₁.log2 + e₁ - (m₂.log2 + e₂) - 53) (-1074) := by
    refine Int.le_trans (ht ▸ Int.min_le_right ..) ?_
    show max ((m₁.log2 : Int) + 1 + e₁ - (m₂.log2 + 1 + e₂) - 53) (-1074) ≤ _
    omega
  show Fits (roundWithAccuracy .binary64 _ (m₁ <<< (e₁ - e₂ - _).toNat / m₂) _ _)
  rw [← ht]
  exact fits_roundWithAccuracy _ _ (by omega) (by omega)

theorem isFinite_div {x y : Float} (hx : x.isFinite = true)
    (hy : isLarge y.toModel.unpack = true) : (x / y).isFinite = true := by
  obtain ⟨s₂, m₂, e₂, h₂, hv, hlarge⟩ := large_cases hy
  refine isFinite_pack (u := .div .binary64 x.toModel.unpack y.toModel.unpack) ?_
  rw [hv]
  obtain ⟨s₁, hu⟩ | ⟨s₁, m₁, e₁, h₁, hu⟩ := finite_cases (isFinite_iff.mp hx)
  · rw [hu]
    trivial
  · rw [hu]
    obtain ⟨hbits, hexponent⟩ := unpack_bounds hu
    exact fits_div hbits hexponent hlarge

theorem isFinite_mul {x y : Float} (hx : x.isFinite = true) (hy : y.isFinite = true)
    (notInf : (x * y).isInf = false) : (x * y).isFinite = true := by
  refine isFinite_pack_of_isInf_eq_false (u := .mul .binary64 x.toModel.unpack y.toModel.unpack)
    ?_ notInf
  obtain ⟨s₁, hu⟩ | ⟨s₁, m₁, e₁, h₁, hu⟩ := finite_cases (isFinite_iff.mp hx) <;>
    obtain ⟨s₂, hv⟩ | ⟨s₂, m₂, e₂, h₂, hv⟩ := finite_cases (isFinite_iff.mp hy) <;>
    rw [hu, hv]
  · rfl
  · rfl
  · rfl
  · exact isFinite_roundWithAccuracy ..

end HostAlert.Decimal
