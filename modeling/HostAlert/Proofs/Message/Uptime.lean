import HostAlert.Message.Amount
import HostAlert.Proofs.Text.Digits

/-!
# Uptimes read back

An uptime is read part by part (`ReadsAs`): days and hours may be left out, minutes may not, and the
letter of its unit tells which part a number is. So a text is read in one way at most
(`ReadsAs.unique`), and what an uptime is read as is the length of time in whole minutes
(`uptime_recoverable`).
-/

namespace HostAlert.Message

open Text (decimal)

variable {n n' : Nat} {unit unit' : Char} {s rest rest' : List Char}

/-- Digits of the number and the letter of its unit stand in front of the rest. -/
def IsPart (n : Nat) (unit : Char) (s rest : List Char) : Prop :=
  ∃ digits, digits ≠ [] ∧ (∀ c ∈ digits, c.isDigit = true) ∧
    Nat.ofDigitChars 10 digits 0 = n ∧ s = digits ++ unit :: rest

/-- A part that may be left out, with the space behind it. -/
def IsOptional : Option Nat → Char → List Char → List Char → Prop
  | none, _, s, rest => s = rest
  | some n, unit, s, rest => IsPart n unit s (' ' :: rest)

/-- The text is so many days, hours and minutes. The numbers may be written in any way. -/
def ReadsAs (s : List Char) (days hours : Option Nat) (minutes : Nat) : Prop :=
  ∃ s₁ s₂, IsOptional days 'd' s s₁ ∧ IsOptional hours 'h' s₁ s₂ ∧ IsPart minutes 'm' s₂ []

/-! ### One way to read -/

theorem IsPart.unique (h : IsPart n unit s rest) (h' : IsPart n' unit' s rest')
    (letter : unit.isDigit = false) (letter' : unit'.isDigit = false) :
    n = n' ∧ unit = unit' ∧ rest = rest' := by
  obtain ⟨digits, -, hdigits, rfl, rfl⟩ := h
  obtain ⟨digits', -, hdigits', rfl, heq⟩ := h'
  have hstop {u : Char} {r : List Char} (hu : u.isDigit = false) {ds : List Char}
      (hds : ∀ c ∈ ds, c.isDigit = true) :
      (ds ++ u :: r).takeWhile Char.isDigit = ds ∧
        (ds ++ u :: r).dropWhile Char.isDigit = u :: r := by
    rw [List.takeWhile_append_of_pos hds, List.dropWhile_append_of_pos hds]
    simp [hu]
  obtain ⟨htake, hdrop⟩ := hstop (r := rest) letter hdigits
  obtain ⟨htake', hdrop'⟩ := hstop (r := rest') letter' hdigits'
  rw [heq, htake'] at htake
  rw [heq, hdrop'] at hdrop
  obtain ⟨hunit, hrest⟩ := List.cons.inj hdrop
  exact ⟨by rw [htake], hunit.symm, hrest.symm⟩

def BeginsOther (unit : Char) (s : List Char) : Prop :=
  ∃ n unit' rest, IsPart n unit' s rest ∧ unit'.isDigit = false ∧ unit ≠ unit'

/-- Whether a part is left out shows in the unit of the first one. -/
theorem IsOptional.unique {o o' : Option Nat} (h : IsOptional o unit s rest)
    (h' : IsOptional o' unit s rest') (letter : unit.isDigit = false)
    (other : BeginsOther unit rest) (other' : BeginsOther unit rest') : o = o' ∧ rest = rest' := by
  have hclash {n : Nat} {t : List Char} (hs : IsPart n unit s t) (hother : BeginsOther unit s) :
      False := by
    obtain ⟨n', unit', t', hs', letter', hne⟩ := hother
    exact hne (hs.unique hs' letter letter').2.1
  cases o with
  | none =>
    obtain rfl : s = rest := h
    cases o' with
    | none => exact ⟨rfl, h'⟩
    | some n' => exact (hclash h' other).elim
  | some n =>
    cases o' with
    | none =>
      obtain rfl : s = rest' := h'
      exact (hclash h other').elim
    | some n' =>
      obtain ⟨hn, -, hrest⟩ := IsPart.unique h h' letter letter
      exact ⟨congrArg some hn, List.tail_eq_of_cons_eq hrest⟩

theorem ReadsAs.unique {days days' hours hours' : Option Nat} {minutes minutes' : Nat}
    (h : ReadsAs s days hours minutes) (h' : ReadsAs s days' hours' minutes') :
    days = days' ∧ hours = hours' ∧ minutes = minutes' := by
  obtain ⟨s₁, s₂, hdays, hhours, hminutes⟩ := h
  obtain ⟨s₁', s₂', hdays', hhours', hminutes'⟩ := h'
  have hlast {minutes : Nat} {t : List Char} (ht : IsPart minutes 'm' t []) {unit : Char}
      (hne : unit ≠ 'm') : BeginsOther unit t := ⟨minutes, 'm', [], ht, rfl, hne⟩
  have hnext {o : Option Nat} {minutes : Nat} {t t' : List Char} (ho : IsOptional o 'h' t t')
      (ht : IsPart minutes 'm' t' []) : BeginsOther 'd' t := by
    cases o with
    | none =>
      obtain rfl : t = t' := ho
      exact hlast ht (by decide)
    | some n => exact ⟨n, 'h', _, ho, rfl, by decide⟩
  obtain ⟨rfl, rfl⟩ := hdays.unique hdays' rfl (hnext hhours hminutes) (hnext hhours' hminutes')
  obtain ⟨rfl, rfl⟩ := hhours.unique hhours' rfl (hlast hminutes (by decide))
    (hlast hminutes' (by decide))
  exact ⟨rfl, rfl, (hminutes.unique hminutes' rfl rfl).1⟩

/-! ### What an uptime is read as -/

def givenIf (wanted : Prop) [Decidable wanted] (n : Nat) : Option Nat :=
  if wanted then some n else none

theorem getD_givenIf {wanted : Prop} [Decidable wanted] {n : Nat} (h : 0 < n → wanted) :
    (givenIf wanted n).getD 0 = n := by
  unfold givenIf
  split
  · rfl
  · next hnot =>
    have hzero : ¬ 0 < n := mt h hnot
    rw [Option.getD_none]
    omega

def optionalText (o : Option Nat) (unit : Char) : List Char :=
  o.elim [] fun n => decimal n ++ [unit, ' ']

theorem isPart_decimal (n : Nat) (unit : Char) (rest : List Char) :
    IsPart n unit (decimal n ++ unit :: rest) rest :=
  ⟨decimal n, Text.decimal_ne_nil n, fun _ => Text.isDigit_of_mem_decimal,
    Nat.ofDigitChars_toDigits (by decide) (by decide), rfl⟩

theorem isOptional_optionalText (o : Option Nat) (unit : Char) (rest : List Char) :
    IsOptional o unit (optionalText o unit ++ rest) rest := by
  cases o with
  | none => rfl
  | some n =>
    show IsPart n unit (decimal n ++ [unit, ' '] ++ rest) (' ' :: rest)
    rw [List.append_assoc]
    exact isPart_decimal n unit (' ' :: rest)

section

variable {seconds : UInt64} {d h m : Nat}

theorem toList_uptime (hne : seconds ≠ 0) (hd : seconds.toNat / 86400 = d)
    (hh : seconds.toNat % 86400 / 3600 = h) (hm : seconds.toNat % 3600 / 60 = m) :
    (uptime seconds).toList = optionalText (givenIf (0 < d) d) 'd' ++
      (optionalText (givenIf (0 < d ∨ 0 < h) h) 'h' ++ (decimal m ++ ['m'])) := by
  have hpos : seconds.toNat ≠ 0 := fun hzero => hne (UInt64.toNat_inj.mp hzero)
  have hpart (n : Nat) (unit : String) :
      (String.ofList (decimal n) ++ unit).toList = decimal n ++ unit.toList := by
    rw [String.toList_append, String.toList_ofList]
  unfold uptime givenIf
  dsimp only
  rw [hd, hh, hm]
  by_cases hdays : 0 < d
  · simp only [hpos, hdays, true_or, if_true, if_false]
    rw [String.toList_append, String.toList_append, hpart, hpart, hpart, List.append_assoc]
    rfl
  · by_cases hhours : 0 < h
    · simp only [hpos, hdays, hhours, or_true, if_true, if_false]
      rw [String.toList_append, hpart, hpart]
      rfl
    · simp only [hpos, hdays, hhours, or_self, if_false]
      exact hpart m "m"

theorem readsAs_uptime_iff (hne : seconds ≠ 0) (hd : seconds.toNat / 86400 = d)
    (hh : seconds.toNat % 86400 / 3600 = h) (hm : seconds.toNat % 3600 / 60 = m)
    {days hours : Option Nat} {minutes : Nat} :
    ReadsAs (uptime seconds).toList days hours minutes ↔
      days = givenIf (0 < d) d ∧ hours = givenIf (0 < d ∨ 0 < h) h ∧ minutes = m := by
  have hreads : ReadsAs (uptime seconds).toList (givenIf (0 < d) d)
      (givenIf (0 < d ∨ 0 < h) h) m := by
    rw [toList_uptime hne hd hh hm]
    exact ⟨_, _, isOptional_optionalText _ _ _, isOptional_optionalText _ _ _,
      isPart_decimal m 'm' []⟩
  constructor
  · intro hread
    exact hread.unique hreads
  · rintro ⟨rfl, rfl, rfl⟩
    exact hreads

theorem uptime_eq_empty_iff : uptime seconds = "" ↔ seconds = 0 := by
  constructor
  · intro hempty
    by_contra hne
    have htext := toList_uptime hne rfl rfl rfl
    rw [hempty] at htext
    simp at htext
  · rintro rfl
    rfl

theorem minutes_eq_of_uptime_eq {s t : UInt64} (hs : s ≠ 0) (ht : t ≠ 0)
    (heq : uptime s = uptime t) : s.toNat / 60 = t.toNat / 60 := by
  have hread := (readsAs_uptime_iff ht rfl rfl rfl).mpr ⟨rfl, rfl, rfl⟩
  rw [← heq, readsAs_uptime_iff hs rfl rfl rfl] at hread
  obtain ⟨hdays, hhours, hminutes⟩ := hread
  have hdays := congrArg (Option.getD · 0) hdays
  have hhours := congrArg (Option.getD · 0) hhours
  simp only [getD_givenIf id, getD_givenIf Or.inr] at hdays hhours
  omega

theorem uptime_eq_of_minutes_eq {s t : UInt64} (hs : s ≠ 0) (ht : t ≠ 0)
    (heq : s.toNat / 60 = t.toNat / 60) : uptime s = uptime t := by
  have hdays : t.toNat / 86400 = s.toNat / 86400 := by omega
  have hhours : t.toNat % 86400 / 3600 = s.toNat % 86400 / 3600 := by omega
  have hminutes : t.toNat % 3600 / 60 = s.toNat % 3600 / 60 := by omega
  apply String.toList_injective
  rw [toList_uptime hs rfl rfl rfl, toList_uptime ht hdays hhours hminutes]

end

/-- An uptime can be read in one way: as days and hours below a day and minutes below an hour that
make up the whole minutes of it. The days are there unless they are none, and the hours unless both
are. Two uptimes look alike exactly if they lie in the same minute and both or neither are zero. -/
theorem uptime_recoverable :
    (∀ seconds : UInt64, seconds ≠ 0 → ∃ d h m, h < 24 ∧ m < 60 ∧
      86400 * d + 3600 * h + 60 * m = seconds.toNat - seconds.toNat % 60 ∧
      ∀ days hours minutes, ReadsAs (uptime seconds).toList days hours minutes ↔
        days = givenIf (0 < d) d ∧ hours = givenIf (0 < d ∨ 0 < h) h ∧ minutes = m) ∧
    ∀ s t : UInt64, uptime s = uptime t ↔ (s = 0 ↔ t = 0) ∧ s.toNat / 60 = t.toNat / 60 := by
  refine ⟨fun seconds hne => ?_, fun s t => ⟨fun heq => ?_, fun ⟨hzero, hminute⟩ => ?_⟩⟩
  · exact ⟨_, _, _, by omega, by omega, by omega, fun _ _ _ => readsAs_uptime_iff hne rfl rfl rfl⟩
  · have hzero : s = 0 ↔ t = 0 := by
      rw [← uptime_eq_empty_iff, heq, uptime_eq_empty_iff]
    by_cases hs : s = 0
    · rw [hs, hzero.mp hs]
      exact ⟨Iff.rfl, rfl⟩
    · exact ⟨hzero, minutes_eq_of_uptime_eq hs (mt hzero.mpr hs) heq⟩
  · by_cases hs : s = 0
    · rw [hs, hzero.mp hs]
    · exact uptime_eq_of_minutes_eq hs (mt hzero.mpr hs) hminute

/-- A day and a minute: the hours are shown although they are none. The text lasts until the next
minute. -/
theorem day_and_minute : (86460 : UInt64) ≠ 0 ∧
    ReadsAs (uptime 86460).toList (some 1) (some 0) 1 ∧
    uptime 86519 = uptime 86460 ∧ uptime 86520 ≠ uptime 86460 := by
  obtain ⟨hparts, halike⟩ := uptime_recoverable
  obtain ⟨d, h, m, hh, hm, hsum, hreads⟩ := hparts 86460 (by decide)
  have hseconds : (86460 : UInt64).toNat = 86460 := rfl
  rw [hseconds] at hsum
  obtain rfl : d = 1 := by omega
  obtain rfl : h = 0 := by omega
  obtain rfl : m = 1 := by omega
  exact ⟨by decide, (hreads _ _ _).mpr ⟨rfl, rfl, rfl⟩, (halike _ _).mpr (by decide),
    mt (halike _ _).mp (by decide)⟩

end HostAlert.Message
