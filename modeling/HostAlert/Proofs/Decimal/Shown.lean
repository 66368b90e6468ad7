import HostAlert.Proofs.Decimal.Nearest
import HostAlert.Proofs.Decimal.Numeral

/-!
# Numbers shown to one decimal

A numeral shows a number to one decimal if it is the numeral of the tenths nearest to the number
(`ShowsTenths`). It is then at most 1/20 off (`ShowsTenths.close`), never decreases with the number
(`ShowsTenths.mono`) and shows whole numbers in full (`ShowsTenths.whole`). Doubles without the sign
are shown in this way (`IsUnsigned.showsTenths`).
-/

namespace HostAlert.Decimal

open Text (decimal)

/-- The numeral shows the multiple of one tenth that is nearest to the number. -/
def ShowsTenths (s : List Char) (q : ℚ) : Prop :=
  ∃ n : ℕ, s = numeralOfTenths n ∧ IsNearest (1 / 10) q n

namespace ShowsTenths

variable {s t : List Char} {p q : ℚ}

theorem isNumeral (h : ShowsTenths s q) : IsNumeral s := by
  obtain ⟨n, rfl, -⟩ := h
  exact isNumeral_numeralOfTenths n

theorem close (h : ShowsTenths s q) : |numeralValue s - q| ≤ 1 / 20 := by
  obtain ⟨n, rfl, hnear⟩ := h
  have hhalf := hnear.near_half (by norm_num)
  rw [numeralValue_numeralOfTenths, div_eq_mul_one_div]
  rw [Int.cast_natCast] at hhalf
  exact hhalf.trans_eq (by norm_num)

theorem mono (hs : ShowsTenths s p) (ht : ShowsTenths t q) (h : p ≤ q) :
    numeralValue s ≤ numeralValue t := by
  obtain ⟨m, rfl, hm⟩ := hs
  obtain ⟨n, rfl, hn⟩ := ht
  have hle : (m : ℤ) ≤ n := hm.mono (by norm_num) hn h
  rw [numeralValue_numeralOfTenths, numeralValue_numeralOfTenths]
  exact div_le_div_of_nonneg_right (by exact_mod_cast hle) (by norm_num)

end ShowsTenths

theorem showsTenths_whole (k : ℕ) : ShowsTenths (decimal k) k := by
  have hten : (k : ℚ) = ((10 * k : ℤ) : ℚ) * (1 / 10) := by
    push_cast
    ring
  refine ⟨10 * k, ?_, ?_⟩
  · rw [numeralOfTenths, if_pos (Nat.mul_mod_right 10 k), Nat.mul_div_cancel_left k (by decide)]
  · rw [hten]
    exact IsNearest.refl (by norm_num) _

namespace ShowsTenths

variable {s : List Char} {q : ℚ}

theorem whole {k : ℕ} (h : ShowsTenths s k) : s = decimal k := by
  obtain ⟨n, rfl, hn⟩ := h
  obtain ⟨m, hm, hnearest⟩ := showsTenths_whole k
  have heq := hn.unique (by norm_num) hnearest
  rw [hm, Int.natCast_inj.mp heq]

theorem le_whole {k : ℕ} (h : ShowsTenths s q) (hq : q ≤ k) : numeralValue s ≤ k :=
  numeralValue_decimal k ▸ h.mono (showsTenths_whole k) hq

theorem whole_le {k : ℕ} (h : ShowsTenths s q) (hq : k ≤ q) : (k : ℚ) ≤ numeralValue s :=
  numeralValue_decimal k ▸ (showsTenths_whole k).mono h hq

end ShowsTenths

/-! ### Doubles without the sign -/

/-- A finite double whose sign is not set. -/
def IsUnsigned (x : Float) : Prop :=
  ∃ p, Parts.ofFloat? x = some p ∧ p.negative = false

theorem isFinite_zero : (0 : Float).isFinite = true := by
  decide +kernel

theorem ofFloat?_zero : Parts.ofFloat? 0 = some ⟨false, 0, -1074⟩ := by
  decide +kernel

theorem valueOf_zero : valueOf 0 = 0 := by
  rw [valueOf_eq ofFloat?_zero]
  simp [Parts.value]

theorem isUnsigned_zero : IsUnsigned 0 :=
  ⟨_, ofFloat?_zero, rfl⟩

/-- Zero with the sign set is the only double that has it without being less than zero. -/
theorem toBits_of_negative_zero {x : Float} {p : Parts} (h : Parts.ofFloat? x = some p)
    (negative : p.negative = true) (zero : p.significand = 0) :
    x.toBits = 0x8000000000000000 := by
  have hlt : x.toBits.toNat < 2 ^ 64 := x.toBits.toNat_lt
  refine UInt64.toNat_inj.mp ?_
  show x.toBits.toNat = 2 ^ 63
  unfold Parts.ofFloat? hiddenBit at h
  dsimp only at h
  split at h
  · cases h
  · split at h <;> cases h
    · have hsign := of_decide_eq_true negative
      dsimp only at zero
      omega
    · dsimp only at zero
      omega

theorem isUnsigned_of_nonneg {x : Float} (finite : x.isFinite = true) (h : 0 ≤ x)
    (unsigned : x.toBits ≠ 0x8000000000000000) : IsUnsigned x := by
  obtain ⟨p, hp⟩ := exists_parts finite
  refine ⟨p, hp, Bool.eq_false_iff.mpr fun hnegative => ?_⟩
  rw [le_iff_valueOf isFinite_zero finite, valueOf_zero, valueOf_eq hp, Parts.value_eq,
    if_pos hnegative, neg_nonneg] at h
  have hzero : p.significand = 0 :=
    Nat.eq_zero_of_not_pos fun hpos => absurd (Parts.size_pos hpos) (not_lt_of_ge h)
  exact unsigned (toBits_of_negative_zero hp hnegative hzero)

theorem isUnsigned_of_pos {x : Float} (finite : x.isFinite = true) (h : ¬ x ≤ 0) :
    IsUnsigned x := by
  obtain ⟨p, hp⟩ := exists_parts finite
  refine ⟨p, hp, Bool.eq_false_iff.mpr fun hnegative => h ?_⟩
  rw [le_iff_valueOf finite isFinite_zero, valueOf_zero, valueOf_eq hp, Parts.value_eq,
    if_pos hnegative, neg_nonpos]
  exact p.size_nonneg

/-- A double without the sign is shown to one decimal. -/
theorem IsUnsigned.showsTenths {x : Float} (h : IsUnsigned x) :
    ShowsTenths (shortTenths x).toList (valueOf x) := by
  obtain ⟨p, hp, hpositive⟩ := h
  have hvalue : valueOf x = p.size := by
    rw [valueOf_eq hp, Parts.value_eq, hpositive]
    rfl
  refine ⟨p.tenths, ?_, hvalue ▸ isNearest_tenths p⟩
  rw [shortTenths, hp]
  dsimp only
  rw [hpositive, String.toList_ofList]
  rfl

end HostAlert.Decimal
