/-!
# Numerals of whole numbers

`decimal` writes a natural number without leading zeros. `grouped` sets a comma before every group
of three digits but the first. `decimalValue` and `hexValue` are what digits stand for.
-/

namespace HostAlert.Text

/-- The decimal digits of a number, most significant first. -/
def decimal (n : Nat) : List Char :=
  Nat.toDigits 10 n

/-- The digits with a comma between groups of three, counted from the right. -/
def grouped : List Char → List Char
  | [] => []
  | d :: rest =>
    if rest.length % 3 = 0 ∧ rest ≠ [] then d :: ',' :: grouped rest else d :: grouped rest

/-- Deleting the commas gives the digits back. -/
theorem filter_grouped (s : List Char) (h : ',' ∉ s) : (grouped s).filter (· ≠ ',') = s := by
  induction s with
  | nil => rfl
  | cons d rest ih =>
    have hd : d ≠ ',' := fun e => h (by simp [e])
    have hr := ih fun hm => h (by simp [hm])
    simp only [ne_eq, decide_not] at hr
    unfold grouped
    split <;> simp [hd, hr]

def groupedNat (n : Nat) : String :=
  String.ofList (grouped (decimal n))

/-- An integer with grouped digits and a minus sign when it is negative. -/
def groupedInt (n : Int) : String :=
  if n < 0 then "-" ++ groupedNat n.natAbs else groupedNat n.natAbs

/-- A number in at least `width` digits, filled up with zeros. -/
def padded (width n : Nat) : List Char :=
  let digits := decimal n
  List.replicate (width - digits.length) '0' ++ digits

/-! ### Digits -/

def decimalValue (c : Char) : Nat :=
  c.toNat - '0'.toNat

def isHexDigit (c : Char) : Bool :=
  c.isDigit || ('a' ≤ c && c ≤ 'f') || ('A' ≤ c && c ≤ 'F')

def hexValue (c : Char) : Nat :=
  if c.isDigit then decimalValue c
  else if 'a' ≤ c then c.toNat - 'a'.toNat + 10
  else c.toNat - 'A'.toNat + 10

def hexNumber (digits : List Char) : Nat :=
  digits.foldl (fun n c => n * 16 + hexValue c) 0

end HostAlert.Text
