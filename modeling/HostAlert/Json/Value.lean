import HostAlert.Decimal.Shortest
import HostAlert.Json.Token

/-!
# Values and their texts

A `Value` is a JSON value with the members of objects in order; `Value.render` is its text. A
double that is no finite number is written as the word for none.
-/

namespace HostAlert.Json

inductive Value
  | null
  | bool (b : Bool)
  | whole (n : Int)
  | double (x : Float)
  | text (s : String)
  | list (items : List Value)
  | object (members : List (String × Value))
  deriving Inhabited

namespace Value

def wholeText (n : Int) : List Char :=
  if n < 0 then '-' :: Text.decimal n.natAbs else Text.decimal n.natAbs

/-- How doubles are written: from which number of digits before the point on, and from which number
of zeros after it on, the exponent form is used. -/
structure DoubleFormat where
  wholeDigits : Int
  leadingZeros : Int

/-- Up to sixteen digits before the point and up to four zeros after it are written out. -/
def doubleFormat : DoubleFormat := ⟨16, 4⟩

/-- The decimal `n · 10 ^ e`, always with a point or an exponent. -/
def decimalText (n : Nat) (e : Int) : List Char :=
  let digits := Text.decimal n
  let point := (digits.length : Int) + e
  if 0 ≤ e ∧ point ≤ doubleFormat.wholeDigits then
    digits ++ List.replicate e.toNat '0' ++ ['.', '0']
  else if 0 < point ∧ point ≤ doubleFormat.wholeDigits then
    digits.take point.toNat ++ '.' :: digits.drop point.toNat
  else if -doubleFormat.leadingZeros ≤ point ∧ point ≤ 0 then
    '0' :: '.' :: List.replicate (-point).toNat '0' ++ digits
  else
    digits.take 1 ++ (if digits.length = 1 then [] else '.' :: digits.drop 1) ++
      'e' :: wholeText (point - 1)

/-- A double with the fewest digits that read back. -/
def doubleText (x : Float) : List Char :=
  match Decimal.Parts.ofFloat? x with
  | none => "null".toList
  | some p =>
    let (n, e) := p.shortest
    (if p.negative then ['-'] else []) ++
      if p.significand = 0 then ['0', '.', '0'] else decimalText n e

def hexDigit (n : Nat) : Char :=
  (Nat.toDigits 16 (n % 16)).headD '0'

def escape (c : Char) : List Char :=
  if c = '\x22' then ['\x5c', '\x22']
  else if c = '\x5c' then ['\x5c', '\x5c']
  else if c = '\x08' then ['\x5c', 'b']
  else if c = '\x09' then ['\x5c', 't']
  else if c = '\x0a' then ['\x5c', 'n']
  else if c = '\x0c' then ['\x5c', 'f']
  else if c = '\x0d' then ['\x5c', 'r']
  else if c.toNat < 0x20 then
    ['\x5c', 'u', '0', '0', hexDigit (c.toNat / 16), hexDigit c.toNat]
  else [c]

def quoted (s : String) : List Char :=
  '\x22' :: (s.toList.flatMap escape ++ ['\x22'])

mutual

def render : Value → List Char
  | null => "null".toList
  | bool b => if b then "true".toList else "false".toList
  | whole n => wholeText n
  | double x => doubleText x
  | text s => quoted s
  | list items => '[' :: (renderItems items ++ [']'])
  | object members => '\x7b' :: (renderMembers members ++ ['\x7d'])

def renderItems : List Value → List Char
  | [] => []
  | [v] => render v
  | v :: w :: items => render v ++ ',' :: renderItems (w :: items)

def renderMembers : List (String × Value) → List Char
  | [] => []
  | [(name, v)] => quoted name ++ ':' :: render v
  | (name, v) :: m :: members =>
    quoted name ++ ':' :: (render v ++ ',' :: renderMembers (m :: members))

end

def bytes (v : Value) : Bytes :=
  Text.Utf8.encode v.render

end Value

end HostAlert.Json
