import HostAlert.Decimal.Double
import HostAlert.Proofs.Text.Digits
import Mathlib

/-!
# Numerals of tenths

`numeralValue` reads a decimal numeral, with or without commas. The numeral of a number of tenths is
canonical (`isNumeral_numeralOfTenths`) and is read as that many tenths
(`numeralValue_numeralOfTenths`). It is what is left of the numeral with one fraction digit when a
trailing zero and a dangling point are taken away (`stripped_fixedTenths`).
-/

namespace HostAlert.Decimal

open Text (decimal)

/-! ### Reading -/

/-- The number that a decimal numeral stands for; commas do not count. -/
def numeralValue (s : List Char) : ℚ :=
  let digits := s.filter (· ≠ ',')
  let fraction := (digits.dropWhile (· ≠ '.')).tail
  Nat.ofDigitChars 10 (digits.takeWhile (· ≠ '.')) 0 +
    Nat.ofDigitChars 10 fraction 0 / 10 ^ fraction.length

/-- A decimal numeral that has no zero too many: its whole part begins with a zero only if that is
all of it, and it has no fraction digit or one that is not zero. -/
def IsNumeral (s : List Char) : Prop :=
  ∃ whole fraction, s = whole ++ fraction ∧ whole ≠ [] ∧ (∀ c ∈ whole, c.isDigit = true) ∧
    (whole.head? = some '0' → whole = ['0']) ∧
    (fraction = [] ∨ ∃ d : Char, d.isDigit = true ∧ d ≠ '0' ∧ fraction = ['.', d])

theorem IsNumeral.minus_not_mem {s : List Char} (h : IsNumeral s) : '-' ∉ s := by
  obtain ⟨whole, fraction, rfl, -, hwhole, -, hfraction⟩ := h
  rw [List.mem_append, not_or]
  refine ⟨fun hmem => absurd (hwhole _ hmem) (by decide), ?_⟩
  obtain rfl | ⟨d, hd, -, rfl⟩ := hfraction
  · exact List.not_mem_nil
  · intro hmem
    have hminus : '-' = d := by simpa using hmem
    rw [← hminus] at hd
    exact absurd hd (by decide)

/-! ### Writing -/

/-- The numeral with exactly one fraction digit. -/
def fixedTenths (n : Nat) : List Char :=
  decimal (n / 10) ++ '.' :: decimal (n % 10)

/-- A numeral without trailing zeros and without a point that they leave behind; zero is left if
nothing else is. -/
def stripped (s : List Char) : List Char :=
  let digits := s.rdropWhile (· == '0')
  let shown := if digits.getLast? = some '.' then digits.dropLast else digits
  if shown = [] then ['0'] else shown

theorem decimal_digit {d : Nat} (h : d < 10) : decimal d = [Nat.digitChar d] :=
  Nat.toDigits_of_lt_base h

theorem digitChar_ne_zero {d : Nat} (h : d ≠ 0) : Nat.digitChar d ≠ '0' :=
  mt Nat.digitChar_eq_zero.mp h

theorem isDigit_digitChar {d : Nat} (h : d < 10) : (Nat.digitChar d).isDigit = true := by
  rw [Nat.isDigit_digitChar, decide_eq_true_eq]
  exact h

theorem stripped_fixedTenths (n : Nat) : stripped (fixedTenths n) = numeralOfTenths n := by
  unfold numeralOfTenths fixedTenths stripped
  rw [decimal_digit (Nat.mod_lt n (by decide)), List.append_cons]
  split
  · next hzero =>
    have hdigit : Nat.digitChar (n % 10) = '0' := Nat.digitChar_eq_zero.mpr hzero
    have hpoint : ((decimal (n / 10) ++ ['.']) ++ ['0']).rdropWhile (· == '0') =
        decimal (n / 10) ++ ['.'] := by
      rw [List.rdropWhile_concat_pos _ _ _ rfl, List.rdropWhile_concat_neg _ _ _ (by decide)]
    rw [hdigit, hpoint]
    simp [Text.decimal_ne_nil]
  · next hdigit =>
    have hne : ¬ (Nat.digitChar (n % 10) == '0') = true := by
      rw [beq_iff_eq]
      exact digitChar_ne_zero hdigit
    have hpoint : Nat.digitChar (n % 10) ≠ '.' := by
      have hpoints : ∀ d < 10, Nat.digitChar d ≠ '.' := by decide
      exact hpoints _ (Nat.mod_lt n (by decide))
    rw [List.rdropWhile_concat_neg (fun c => c == '0') _ _ hne]
    simp [hpoint]

theorem isNumeral_numeralOfTenths (n : Nat) : IsNumeral (numeralOfTenths n) := by
  have hzero : (decimal (n / 10)).head? = some '0' → decimal (n / 10) = ['0'] := fun h => by
    obtain hn | hn := Nat.eq_zero_or_pos (n / 10)
    · rw [hn]
      rfl
    · exact absurd h (Text.head_decimal hn)
  have hdigits : ∀ c ∈ decimal (n / 10), c.isDigit = true := fun _ => Text.isDigit_of_mem_decimal
  unfold numeralOfTenths
  split
  · exact ⟨_, [], (List.append_nil _).symm, Text.decimal_ne_nil _, hdigits, hzero, .inl rfl⟩
  · next hdigit =>
    have hlt : n % 10 < 10 := Nat.mod_lt n (by decide)
    rw [decimal_digit hlt]
    exact ⟨_, _, rfl, Text.decimal_ne_nil _, hdigits, hzero,
      .inr ⟨_, isDigit_digitChar hlt, digitChar_ne_zero hdigit, rfl⟩⟩

/-! ### Reading what is written -/

theorem isDigit_ne {c d : Char} (hc : c.isDigit = true) (hd : d.isDigit = false) : c ≠ d := by
  rintro rfl
  rw [hc] at hd
  cases hd

theorem ofDigitChars_decimal (n : Nat) : Nat.ofDigitChars 10 (decimal n) 0 = n :=
  Nat.ofDigitChars_toDigits (by decide) (by decide)

theorem numeralValue_of_filter {s whole : List Char} (h : s.filter (· ≠ ',') = whole)
    (hwhole : ∀ c ∈ whole, c.isDigit = true) : numeralValue s = Nat.ofDigitChars 10 whole 0 := by
  have hpoint : ∀ c ∈ whole, (decide (c ≠ '.')) = true := fun c hc =>
    decide_eq_true (isDigit_ne (hwhole c hc) rfl)
  rw [numeralValue, h]
  rw [List.takeWhile_eq_self_iff.mpr hpoint, List.dropWhile_eq_nil_iff.mpr hpoint]
  simp

theorem numeralValue_decimal (n : Nat) : numeralValue (decimal n) = n := by
  have hdigits : ∀ c ∈ decimal n, c.isDigit = true := fun _ => Text.isDigit_of_mem_decimal
  have hcomma : (decimal n).filter (· ≠ ',') = decimal n :=
    List.filter_eq_self.mpr fun c hc => decide_eq_true (isDigit_ne (hdigits c hc) rfl)
  rw [numeralValue_of_filter hcomma hdigits, ofDigitChars_decimal]

theorem numeralValue_grouped (n : Nat) : numeralValue (Text.grouped (decimal n)) = n := by
  have hdigits : ∀ c ∈ decimal n, c.isDigit = true := fun _ => Text.isDigit_of_mem_decimal
  have hcomma : ',' ∉ decimal n := fun h => isDigit_ne (hdigits _ h) (d := ',') rfl rfl
  rw [numeralValue_of_filter (Text.filter_grouped _ hcomma) hdigits, ofDigitChars_decimal]

theorem numeralValue_point (n : Nat) {d : Nat} (h : d < 10) :
    numeralValue (decimal n ++ ['.', Nat.digitChar d]) = n + d / 10 := by
  have hdigits : ∀ c ∈ decimal n, c.isDigit = true := fun _ => Text.isDigit_of_mem_decimal
  have hcomma : (decimal n ++ ['.', Nat.digitChar d]).filter (· ≠ ',') =
      decimal n ++ ['.', Nat.digitChar d] := by
    refine List.filter_eq_self.mpr fun c hc => decide_eq_true ?_
    obtain hc | hc := List.mem_append.mp hc
    · exact isDigit_ne (hdigits c hc) rfl
    · obtain rfl | hc := List.mem_cons.mp hc
      · decide
      · rw [List.mem_singleton.mp hc]
        exact isDigit_ne (isDigit_digitChar h) rfl
  have hpoint : ∀ c ∈ decimal n, (decide (c ≠ '.')) = true := fun c hc =>
    decide_eq_true (isDigit_ne (hdigits c hc) rfl)
  rw [numeralValue, hcomma]
  rw [List.takeWhile_append_of_pos hpoint, List.dropWhile_append_of_pos hpoint]
  have hvalue : Nat.ofDigitChars 10 [Nat.digitChar d] 0 = d := by
    rw [← decimal_digit h, ofDigitChars_decimal]
  simp [hvalue, ofDigitChars_decimal]

/-- The numeral of a number of tenths stands for that many tenths. -/
theorem numeralValue_numeralOfTenths (n : Nat) : numeralValue (numeralOfTenths n) = n / 10 := by
  have hsplit : (n : ℚ) = 10 * (n / 10 : Nat) + (n % 10 : Nat) := by
    exact_mod_cast (Nat.div_add_mod n 10).symm
  unfold numeralOfTenths
  split
  · next hzero =>
    rw [numeralValue_decimal, hsplit, hzero]
    push_cast
    ring
  · have hlt : n % 10 < 10 := Nat.mod_lt n (by decide)
    rw [decimal_digit hlt, numeralValue_point _ hlt, hsplit]
    ring

end HostAlert.Decimal
