import HostAlert.Proofs.Decimal.Comparison

/-!
# The order of doubles

A double that is no NaN has a rank, and two doubles compare as their ranks do
(`compare_eq_ranks`). Ranks are compared part by part, so the order of doubles is transitive
(`le_trans`, `lt_of_lt_of_le`, `lt_of_le_of_lt`). A NaN has no rank and is in no order with any double
(`not_le_of_isNaN`, `not_lt_of_isNaN`).
-/

namespace HostAlert.Decimal

open Float.Model (UnpackedFloat)
open Float.Model.UnpackedFloat (Sign)

/-- Where a double stands in the order: its class, and within the finite ones its exponent and its
significand, which count downwards below zero. A NaN stands nowhere. -/
def rank? : UnpackedFloat → Option (Int × Int × Int)
  | .notANumber => none
  | .infinity .negative => some (-2, 0, 0)
  | .finite .negative m e _ => some (-1, -e, -m)
  | .zero _ => some (0, 0, 0)
  | .finite .positive m e _ => some (1, e, m)
  | .infinity .positive => some (2, 0, 0)

def compareRanks : Int × Int × Int → Int × Int × Int → Ordering :=
  compareLex (compareOn (·.1)) (compareLex (compareOn (·.2.1)) (compareOn (·.2.2)))

instance : Std.TransCmp compareRanks :=
  inferInstanceAs (Std.TransCmp (compareLex _ (compareLex _ _)))

theorem compare_neg_neg (i j : Int) : compare (-i) (-j) = compare j i := by
  show compareOfLessAndEq (-i) (-j) = compareOfLessAndEq j i
  simp only [compareOfLessAndEq, Int.neg_lt_neg_iff, Int.neg_inj, eq_comm]

theorem compare_natCast (i j : Nat) : compare (i : Int) (j : Int) = compare i j := by
  show compareOfLessAndEq (i : Int) (j : Int) = compareOfLessAndEq i j
  simp only [compareOfLessAndEq, Int.ofNat_lt, Int.ofNat_inj]

theorem compare_eq_ranks (a b : UnpackedFloat) :
    a.compare b = (rank? a).bind fun r => (rank? b).map (compareRanks r) := by
  cases a with
  | notANumber => rfl
  | infinity s =>
    cases b with
    | notANumber => cases s <;> rfl
    | infinity t => cases s <;> cases t <;> rfl
    | zero => cases s <;> rfl
    | finite t => cases s <;> cases t <;> rfl
  | zero =>
    cases b with
    | notANumber => rfl
    | infinity t => cases t <;> rfl
    | zero => rfl
    | finite t => cases t <;> rfl
  | finite s m e =>
    cases b with
    | notANumber => cases s <;> rfl
    | infinity t => cases s <;> cases t <;> rfl
    | zero => cases s <;> rfl
    | finite t m' e' =>
      cases s <;> cases t
      · show some ((compare e e').then (compare m m')).swap =
          some ((compare (-e) (-e')).then (compare (-(m : Int)) (-(m' : Int))))
        rw [compare_neg_neg, compare_neg_neg, compare_natCast, Ordering.swap_then,
          Int.compare_swap, Nat.compare_swap]
      · rfl
      · rfl
      · show some ((compare e e').then (compare m m')) =
          some ((compare e e').then (compare (m : Int) (m' : Int)))
        rw [compare_natCast]

theorem le_iff_ranks {a b : Float} : a ≤ b ↔ ∃ r t, rank? a.toModel.unpack = some r ∧
    rank? b.toModel.unpack = some t ∧ (compareRanks r t).isLE = true := by
  rw [le_iff, compare_eq_ranks]
  cases rank? a.toModel.unpack <;> cases rank? b.toModel.unpack <;> simp

theorem lt_iff_ranks {a b : Float} : a < b ↔ ∃ r t, rank? a.toModel.unpack = some r ∧
    rank? b.toModel.unpack = some t ∧ compareRanks r t = .lt := by
  rw [lt_iff, compare_eq_ranks]
  cases rank? a.toModel.unpack <;> cases rank? b.toModel.unpack <;> simp

theorem le_of_lt {a b : Float} (h : a < b) : a ≤ b := by
  rw [lt_iff] at h
  rw [le_iff, h]
  rfl

theorem lt_of_lt_of_le {a b c : Float} (hab : a < b) (hbc : b ≤ c) : a < c := by
  obtain ⟨r, t, hr, ht, hlt⟩ := lt_iff_ranks.mp hab
  obtain ⟨t', u, ht', hu, hle⟩ := le_iff_ranks.mp hbc
  obtain rfl : t = t' := Option.some.inj (ht.symm.trans ht')
  exact lt_iff_ranks.mpr ⟨r, u, hr, hu, Std.TransCmp.lt_of_lt_of_isLE hlt hle⟩

theorem lt_of_le_of_lt {a b c : Float} (hab : a ≤ b) (hbc : b < c) : a < c := by
  obtain ⟨r, t, hr, ht, hle⟩ := le_iff_ranks.mp hab
  obtain ⟨t', u, ht', hu, hlt⟩ := lt_iff_ranks.mp hbc
  obtain rfl : t = t' := Option.some.inj (ht.symm.trans ht')
  exact lt_iff_ranks.mpr ⟨r, u, hr, hu, Std.TransCmp.lt_of_isLE_of_lt hle hlt⟩

theorem le_trans {a b c : Float} (hab : a ≤ b) (hbc : b ≤ c) : a ≤ c := by
  obtain ⟨r, t, hr, ht, hle⟩ := le_iff_ranks.mp hab
  obtain ⟨t', u, ht', hu, hle'⟩ := le_iff_ranks.mp hbc
  obtain rfl : t = t' := Option.some.inj (ht.symm.trans ht')
  exact le_iff_ranks.mpr ⟨r, u, hr, hu, Std.TransCmp.isLE_trans hle hle'⟩

/-! ### No number -/

theorem rank?_of_isNaN {x : Float} (h : x.isNaN = true) : rank? x.toModel.unpack = none := by
  have hunpack : x.toModel.unpack.isNaN = true := h
  cases hx : x.toModel.unpack with
  | notANumber => rfl
  | infinity | zero | finite =>
    rw [hx] at hunpack
    cases hunpack

theorem not_le_of_isNaN {a b : Float} (h : a.isNaN = true ∨ b.isNaN = true) : ¬ a ≤ b := by
  intro hle
  obtain ⟨r, t, hr, ht, -⟩ := le_iff_ranks.mp hle
  obtain ha | hb := h
  · cases hr.symm.trans (rank?_of_isNaN ha)
  · cases ht.symm.trans (rank?_of_isNaN hb)

theorem not_lt_of_isNaN {a b : Float} (h : a.isNaN = true ∨ b.isNaN = true) : ¬ a < b :=
  fun hlt => not_le_of_isNaN h (le_of_lt hlt)

end HostAlert.Decimal
