/-!
# Punycode

A way to write a text with letters, digits and hyphens alone. The ASCII characters come first, and
after a hyphen the others, in the order of their code points: how far on each one is from the one
before it, as a number in digits of base 36. The number of digits follows the size of the numbers so
far (`adapt`).
-/

namespace HostAlert.Domain.Punycode

/-! ### Digits -/

def base : Nat := 36

/-- The value of a digit: letters in either case come first, then decimal digits. -/
def digitValue? (c : Char) : Option Nat :=
  if c.isLower then some (c.toNat - 'a'.toNat)
  else if c.isUpper then some (c.toNat - 'A'.toNat)
  else if c.isDigit then some (c.toNat - '0'.toNat + 26)
  else none

def digit (n : Nat) : Char :=
  Char.ofNat (if n < 26 then 'a'.toNat + n else '0'.toNat + (n - 26))

/-- The least value of a digit after which a number goes on, by the place of the digit, which is
counted in steps of the base. -/
def threshold (place bias : Nat) : Nat :=
  min 26 (max 1 (place - bias))

/-- How often a number is divided until it is small, and what is left of it. -/
def shrink (n : Nat) : Nat × Nat :=
  if 455 < n then
    let (times, rest) := shrink (n / 35)
    (times + 1, rest)
  else (0, n)
termination_by n
decreasing_by exact Nat.div_lt_self (by omega) (by omega)

/-- The bias after a number, for a text of a length. -/
def adapt (n length : Nat) (isFirst : Bool) : Nat :=
  let n := if isFirst then n / 700 else n / 2
  let (times, rest) := shrink (n + n / length)
  base * times + base * rest / (rest + 38)

def firstBias : Nat := 72

/-- The first code point that is not of ASCII. -/
def firstCode : Nat := 0x80

def isAscii (c : Char) : Bool :=
  c.toNat < firstCode

/-! ### Reading -/

/-- Reads a number: its value times `weight`, and the digits after it. -/
def number? (bias : Nat) : (place weight : Nat) → List Char → Option (Nat × List Char)
  | _, _, [] => none
  | place, weight, c :: s =>
    match digitValue? c with
    | none => none
    | some d =>
      if d < threshold place bias then some (d * weight, s)
      else
        (number? bias (place + base) (weight * (base - threshold place bias)) s).map
          fun (n, rest) => (d * weight + n, rest)

/-- Reads the characters that are not of ASCII into a text. `code` and `position` are those of the
one before, and `fuel` bounds their number; the number of digits is always enough. -/
def insertWithin : (fuel : Nat) → (code position bias : Nat) → List Char → List Char →
    Option (List Char)
  | 0, _, _, _, _, _ => none
  | fuel + 1, code, position, bias, text, digits =>
    if digits.isEmpty then some text
    else
      match number? bias base 1 digits with
      | none => none
      | some (n, rest) =>
        let length := text.length + 1
        let code := code + (position + n) / length
        let place := (position + n) % length
        if code.isValidChar then
          insertWithin fuel code (place + 1) (adapt n length (position = 0))
            (text.insertIdx place (Char.ofNat code)) rest
        else none

/-- The text of a code. A hyphen separates the ASCII characters when there are any. -/
def decode? (code : List Char) : Option (List Char) :=
  let digits := (code.reverse.takeWhile (· != '-')).reverse
  let plain := code.take (code.length - digits.length - 1)
  let digits := if plain.isEmpty then code else digits
  insertWithin (digits.length + 1) firstCode 0 firstBias plain digits

/-! ### Writing -/

def digits (bias place n : Nat) : List Char :=
  let t := threshold place bias
  if n < t then [digit n]
  else digit (t + (n - t) % (base - t)) :: digits bias (place + base) ((n - t) / (base - t))
termination_by n
decreasing_by
  have h : 1 ≤ threshold place bias := by unfold threshold; omega
  exact Nat.lt_of_le_of_lt (Nat.div_le_self _ _) (by omega)

/-- A text that is being written. -/
structure Writing where
  /-- The digits so far, reversed. -/
  done : List Char
  /-- How far on the next character is from the one before. -/
  distance : Nat
  bias : Nat
  /-- The number of characters written. -/
  written : Nat

/-- Passes over one character of the text, or writes it when it is the one of the code point. -/
def Writing.pass (plain code : Nat) (w : Writing) (c : Char) : Writing :=
  if c.toNat < code then { w with distance := w.distance + 1 }
  else if c.toNat = code then
    ⟨(digits w.bias base w.distance).reverse ++ w.done, 0,
      adapt w.distance (w.written + 1) (w.written = plain), w.written + 1⟩
  else w

/-- Writes the characters of ascending code points; `code` is the least that is not written. -/
def writeCodes (text : List Char) (plain : Nat) : (code : Nat) → List Nat → Writing → Writing
  | _, [], w => w
  | code, next :: rest, w =>
    let w := { w with distance := w.distance + (next - code) * (w.written + 1) }
    let w := text.foldl (Writing.pass plain next) w
    writeCodes text plain (next + 1) rest { w with distance := w.distance + 1 }

def encode (text : List Char) : List Char :=
  let plain := text.filter isAscii
  let codes := ((text.filter fun c => !isAscii c).map Char.toNat).mergeSort.eraseDups
  let w := writeCodes text plain.length firstCode codes ⟨[], 0, firstBias, plain.length⟩
  (if plain.isEmpty then [] else plain ++ ['-']) ++ w.done.reverse

example : encode "b\u00fccher".toList = "bcher-kva".toList := by cbv
example : decode? "bcher-kva".toList = some "b\u00fccher".toList := by cbv

end HostAlert.Domain.Punycode
