import HostAlert.Text.Numeral

/-!
# Doubles in exact arithmetic

A finite double is `± significand · 2 ^ exponent` with whole numbers; `Parts.ofFloat?` reads them
off its bits. Rounding and printing work on these parts: `tenths` is the multiple of one tenth
nearest to a double, counted in tenths, and the even one of two equally near ones. `shortTenths`
writes it without a trailing zero and without a dangling point.
-/

namespace HostAlert.Decimal

/-- A finite double as `± significand · 2 ^ exponent`. -/
structure Parts where
  negative : Bool
  significand : Nat
  exponent : Int
  deriving DecidableEq

/-- The bit of the significand that is not stored, unless the double is very small. -/
def hiddenBit : Nat := 0x10000000000000

/-- The parts of a finite double; the sign of a zero counts. -/
def Parts.ofFloat? (x : Float) : Option Parts :=
  let bits : Nat := x.toBits.toNat
  let negative := decide (0x8000000000000000 ≤ bits)
  let field : Nat := bits / hiddenBit % 0x800
  let fraction : Nat := bits % hiddenBit
  if field = 0x7FF then none
  else if field = 0 then some ⟨negative, fraction, -1074⟩
  else some ⟨negative, fraction + hiddenBit, (field : Int) - 1075⟩

example : Parts.ofFloat? (-0.75) = some ⟨true, 3 * 2 ^ 51, -53⟩ := by decide +kernel

/-- The whole number nearest to `num / den`; of two equally near ones the even one. -/
def roundQuotient (num den : Nat) : Nat :=
  let q := num / den
  let twice := 2 * (num % den)
  if den < twice ∨ twice = den ∧ q % 2 = 1 then q + 1 else q

/-- Rounding moves a quotient by at most one half. -/
theorem roundQuotient_near (num : Nat) {den : Nat} (h : 0 < den) :
    2 * num ≤ 2 * roundQuotient num den * den + den ∧
      2 * roundQuotient num den * den ≤ 2 * num + den := by
  have hdiv := Nat.div_add_mod num den
  have hlt := Nat.mod_lt num h
  unfold roundQuotient
  dsimp only
  split
  · constructor <;> grind
  · constructor <;> grind

/-- The number of tenths nearest to the absolute value. -/
def Parts.tenths (p : Parts) : Nat :=
  if 0 ≤ p.exponent then p.significand * Nat.pow 2 p.exponent.toNat * 10
  else roundQuotient (p.significand * 10) (Nat.pow 2 (-p.exponent).toNat)

/-- A number of tenths as a decimal numeral with at most one fraction digit, which is not zero. -/
def numeralOfTenths (n : Nat) : List Char :=
  if n % 10 = 0 then Text.decimal (n / 10)
  else Text.decimal (n / 10) ++ '.' :: Text.decimal (n % 10)

/-- A double with at most one fraction digit; the sign of a zero is kept. -/
def shortTenths (x : Float) : String :=
  match Parts.ofFloat? x with
  | some p => String.ofList ((if p.negative then ['-'] else []) ++ numeralOfTenths p.tenths)
  | none => if x.isNaN then "NaN" else if x < 0 then "-inf" else "inf"

end HostAlert.Decimal
