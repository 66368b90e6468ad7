import HostAlert.Decimal.Double

/-!
# Shortest decimals

`Parts.shortest` is the decimal with the fewest digits among those that round to a double, and of
two such the nearer one. Half the distance to the neighbouring doubles bounds the decimals that
round to it; the bounds themselves count when the significand is even.
-/

namespace HostAlert.Decimal

structure Ratio where
  num : Nat
  den : Nat

namespace Ratio

/-- The number `n · 2 ^ e`. -/
def ofBinary (n : Nat) (e : Int) : Ratio :=
  ⟨n * Nat.pow 2 e.toNat, Nat.pow 2 (-e).toNat⟩

/-- The number `n · 10 ^ e`. -/
def ofDecimal (n : Nat) (e : Int) : Ratio :=
  ⟨n * Nat.pow 10 e.toNat, Nat.pow 10 (-e).toNat⟩

def le (a b : Ratio) : Bool :=
  decide (a.num * b.den ≤ b.num * a.den)

def lt (a b : Ratio) : Bool :=
  decide (a.num * b.den < b.num * a.den)

/-- The largest whole number of `10 ^ e` that is not above the number. -/
def floorAt (a : Ratio) (e : Int) : Nat :=
  a.num * Nat.pow 10 (-e).toNat / (a.den * Nat.pow 10 e.toNat)

/-- The number of digits before the point; zero or less when the number is below one tenth. -/
def magnitude (a : Ratio) : Int :=
  ((Text.decimal (a.num * Nat.pow 10 330 / a.den)).length : Int) - 330

end Ratio

namespace Parts

def ratio (p : Parts) : Ratio :=
  .ofBinary p.significand p.exponent

/-- The bounds of the decimals that round to the absolute value. -/
def bounds (p : Parts) : Ratio × Ratio :=
  let below := if p.significand = hiddenBit ∧ -1074 < p.exponent then 1 else 2
  (.ofBinary (4 * p.significand - below) (p.exponent - 2),
    .ofBinary (4 * p.significand + 2) (p.exponent - 2))

/-- Whether the decimal `n · 10 ^ e` rounds to the absolute value. -/
def isNear (p : Parts) (n : Nat) (e : Int) : Bool :=
  let (low, high) := p.bounds
  let d := Ratio.ofDecimal n e
  if p.significand % 2 = 0 then low.le d && d.le high else low.lt d && d.lt high

/-- The decimal with `digits` digits that rounds to the absolute value, if there is one. -/
def nearAt (p : Parts) (digits : Nat) : Option (Nat × Int) :=
  let e := p.ratio.magnitude - digits
  let n := p.ratio.floorAt e
  let above := if n + 1 = Nat.pow 10 digits then (1, e + digits) else (n + 1, e)
  let twice := Ratio.ofDecimal (2 * n + 1) e
  let whole := Ratio.ofBinary (2 * p.significand) p.exponent
  match p.isNear n e, p.isNear (n + 1) e with
  | true, true =>
    if whole.lt twice || whole.le twice && n % 2 == 0 then some (n, e) else some above
  | true, false => some (n, e)
  | false, true => some above
  | false, false => none

/-- The shortest decimal that rounds to the absolute value of a double that is not zero. -/
def shortest (p : Parts) : Nat × Int :=
  ((List.range 17).findSome? fun digits => p.nearAt (digits + 1)).getD (0, 0)

end Parts

example : (Parts.ofFloat? 0.1).map Parts.shortest = some (1, -1) := by decide +kernel
example : (Parts.ofFloat? 5e-324).map Parts.shortest = some (5, -324) := by decide +kernel

end HostAlert.Decimal
