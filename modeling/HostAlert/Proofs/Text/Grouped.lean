import Mathlib
import HostAlert.Proofs.Text.Digits

/-!
# Grouped digits

The commas in a number cut its digits into groups (`exists_groups`): the first one has one to three
digits, since the commas are counted from the right, and every other one has three. Without the
commas what is left is the decimal text of the number, so that no two numbers look the same
(`grouping_lossless`).
-/

namespace HostAlert.Text

/-- The digits of the first group are at most three, and all others have three. -/
structure AreGroups (first : List Char) (more : List (List Char)) : Prop where
  nonempty : first ≠ []
  short : first.length ≤ 3
  full : ∀ g ∈ more, g.length = 3

def IsGrouped (s : List Char) : Prop :=
  ∃ first more, AreGroups first more ∧ s = [','].intercalate (first :: more) ∧
    ∀ g ∈ first :: more, ∀ c ∈ g, c.isDigit = true

theorem length_flatten_of_full {groups : List (List Char)} (h : ∀ g ∈ groups, g.length = 3) :
    groups.flatten.length = 3 * groups.length := by
  induction groups with
  | nil => rfl
  | cons g groups ih =>
    obtain ⟨hg, hgroups⟩ := List.forall_mem_cons.mp h
    rw [List.flatten_cons, List.length_append, hg, ih hgroups, List.length_cons]
    omega

theorem AreGroups.length_mod {first : List Char} {more : List (List Char)}
    (h : AreGroups first more) :
    (first :: more).flatten.length % 3 = first.length % 3 := by
  rw [List.flatten_cons, List.length_append, length_flatten_of_full h.full]
  omega

theorem intercalate_cons_first (d : Char) (first : List Char) (more : List (List Char)) :
    [','].intercalate ((d :: first) :: more) = d :: [','].intercalate (first :: more) := by
  cases more with
  | nil => rw [List.intercalate_singleton, List.intercalate_singleton]
  | cons g more =>
    rw [List.intercalate_cons_cons, List.intercalate_cons_cons]
    rfl

/-- A further digit on the left joins the first group unless that has three digits. -/
theorem exists_groups {s : List Char} (h : s ≠ []) : ∃ first more, AreGroups first more ∧
    (first :: more).flatten = s ∧ grouped s = [','].intercalate (first :: more) := by
  induction s with
  | nil => exact (h rfl).elim
  | cons d s ih =>
    by_cases hs : s = []
    · subst hs
      exact ⟨[d], [], ⟨nofun, Nat.le_of_ble_eq_true rfl, nofun⟩, rfl, rfl⟩
    · obtain ⟨first, more, groups, hflatten, hgrouped⟩ := ih hs
      have hmod := groups.length_mod
      rw [hflatten] at hmod
      have hpos : 0 < first.length := List.length_pos_iff.mpr groups.nonempty
      have hshort := groups.short
      by_cases hfull : first.length = 3
      · refine ⟨[d], first :: more, ⟨nofun, Nat.le_of_ble_eq_true rfl, ?_⟩, ?_, ?_⟩
        · exact List.forall_mem_cons.mpr ⟨hfull, groups.full⟩
        · rw [List.flatten_cons, hflatten]
          rfl
        · rw [grouped, if_pos ⟨by omega, hs⟩, hgrouped, List.intercalate_cons_cons]
          rfl
      · refine ⟨d :: first, more, ⟨nofun, ?_, groups.full⟩, ?_, ?_⟩
        · rw [List.length_cons]
          omega
        · rw [List.flatten_cons, List.cons_append, ← List.flatten_cons, hflatten]
        · rw [grouped, if_neg (by omega), hgrouped, intercalate_cons_first]

theorem isGrouped_decimal (n : Nat) : IsGrouped (grouped (decimal n)) := by
  obtain ⟨first, more, groups, hflatten, hgrouped⟩ := exists_groups (decimal_ne_nil n)
  refine ⟨first, more, groups, hgrouped, fun g hg c hc => isDigit_of_mem_decimal (n := n) ?_⟩
  rw [← hflatten]
  exact List.mem_flatten.mpr ⟨g, hg, hc⟩

/-! ### Without the commas -/

def withoutCommas (s : String) : String :=
  String.ofList (s.toList.filter (· ≠ ','))

theorem comma_not_mem_decimal (n : Nat) : ',' ∉ decimal n := fun h =>
  absurd (isDigit_of_mem_decimal h) (by decide)

theorem withoutCommas_groupedNat (n : Nat) : withoutCommas (groupedNat n) = toString n := by
  rw [withoutCommas, groupedNat, String.toList_ofList, filter_grouped _ (comma_not_mem_decimal n)]
  rfl

theorem groupedNat_eq_groupedInt (n : Nat) : groupedNat n = groupedInt n := by
  rw [groupedInt, if_neg (Int.not_lt.mpr (Int.natCast_nonneg n)), Int.natAbs_natCast]

theorem withoutCommas_groupedInt (n : Int) : withoutCommas (groupedInt n) = toString n := by
  have hminus (s : String) : withoutCommas ("-" ++ s) = "-" ++ withoutCommas s := by
    apply String.toList_injective
    simp [withoutCommas]
  cases n with
  | ofNat n =>
    rw [Int.ofNat_eq_natCast, ← groupedNat_eq_groupedInt]
    exact withoutCommas_groupedNat n
  | negSucc n =>
    rw [groupedInt, if_pos (Int.negSucc_lt_zero n), hminus]
    exact congrArg ("-" ++ ·) (withoutCommas_groupedNat (n + 1))

theorem groupedInt_inj {m n : Int} : groupedInt m = groupedInt n ↔ m = n := by
  refine ⟨fun h => ?_, congrArg groupedInt⟩
  have htext : toString m = toString n := by
    rw [← withoutCommas_groupedInt, ← withoutCommas_groupedInt, h]
  exact Int.repr_inj.mp htext

/-- A number of 64 bits, with or without a sign, is shown by its decimal text with commas that cut
the digits into groups. Two numbers are shown alike only if they are equal, also a signed and an
unsigned one. -/
theorem grouping_lossless :
    (∀ n : Int64, withoutCommas (groupedInt n.toInt) = toString n ∧
      ∃ s, IsGrouped s ∧
        (groupedInt n.toInt).toList = (if n.toInt < 0 then ['-'] else []) ++ s) ∧
    (∀ n : UInt64, withoutCommas (groupedNat n.toNat) = toString n ∧
      IsGrouped (groupedNat n.toNat).toList) ∧
    (∀ m n : Int64, groupedInt m.toInt = groupedInt n.toInt ↔ m = n) ∧
    (∀ m n : UInt64, groupedNat m.toNat = groupedNat n.toNat ↔ m = n) ∧
    ∀ (m : Int64) (n : UInt64), groupedInt m.toInt = groupedNat n.toNat ↔ m.toInt = n.toNat := by
  refine ⟨fun n => ⟨withoutCommas_groupedInt _, _, isGrouped_decimal n.toInt.natAbs, ?_⟩,
    fun n => ⟨withoutCommas_groupedNat _, ?_⟩, fun m n => ?_, fun m n => ?_, fun m n => ?_⟩
  · have hdigits : (groupedNat n.toInt.natAbs).toList = grouped (decimal n.toInt.natAbs) :=
      String.toList_ofList
    unfold groupedInt
    split
    · rw [String.toList_append, hdigits]
      rfl
    · rw [hdigits, List.nil_append]
  · rw [groupedNat, String.toList_ofList]
    exact isGrouped_decimal n.toNat
  · rw [groupedInt_inj, Int64.toInt_inj]
  · rw [groupedNat_eq_groupedInt, groupedNat_eq_groupedInt, groupedInt_inj, Int.natCast_inj,
      UInt64.toNat_inj]
  · rw [groupedNat_eq_groupedInt, groupedInt_inj]

example : groupedInt Int64.minValue.toInt = "-9,223,372,036,854,775,808" := by
  decide

end HostAlert.Text
