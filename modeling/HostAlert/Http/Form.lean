import HostAlert.Text.Utf8

/-!
# Forms

The media type application/x-www-form-urlencoded. `encode` writes pairs of texts; `decode` reads
them back. Letters, digits and four marks stand for themselves, a space is a plus sign, every other
byte is a percent sign with two upper-case hexadecimal digits.
-/

namespace HostAlert.Http.Form

def mediaType : String := "application/x-www-form-urlencoded"

/-- Whether the byte stands for itself. -/
def isPlain (b : UInt8) : Bool :=
  (0x30 ≤ b && b ≤ 0x39) || (0x41 ≤ b && b ≤ 0x5A) || (0x61 ≤ b && b ≤ 0x7A) ||
    b == 0x2A || b == 0x2D || b == 0x2E || b == 0x5F

def hexDigit (n : UInt8) : UInt8 :=
  if n < 10 then 0x30 + n else 0x37 + n

def hexValue? (b : UInt8) : Option UInt8 :=
  if 0x30 ≤ b ∧ b ≤ 0x39 then some (b - 0x30)
  else if 0x41 ≤ b ∧ b ≤ 0x46 then some (b - 0x37)
  else if 0x61 ≤ b ∧ b ≤ 0x66 then some (b - 0x57)
  else none

/-- A percent sign and the two digits of a byte. -/
def percent (b : UInt8) : Bytes :=
  [0x25, hexDigit (b / 16), hexDigit (b % 16)]

def encodeByte (b : UInt8) : Bytes :=
  if isPlain b then [b] else if b = 0x20 then [0x2B] else percent b

def encodeText (s : String) : Bytes :=
  (utf8 s).flatMap encodeByte

def encode (pairs : List (String × String)) : Bytes :=
  [0x26].intercalate (pairs.map fun (name, value) => encodeText name ++ 0x3D :: encodeText value)

/-- The bytes of a part of a form. A percent sign without two digits stands for itself. -/
def decodeBytes : Bytes → Bytes
  | [] => []
  | b :: s =>
    if b = 0x2B then 0x20 :: decodeBytes s
    else if b = 0x25 then
      match s with
      | h :: l :: r =>
        match hexValue? h, hexValue? l with
        | some high, some low => (high * 16 + low) :: decodeBytes r
        | _, _ => b :: decodeBytes (h :: l :: r)
      | [l] => [b, if l = 0x2B then 0x20 else l]
      | [] => [b]
    else b :: decodeBytes s

def decodeText (s : Bytes) : String :=
  String.ofList (Text.Utf8.decodeLossy (decodeBytes s))

def splitAt (separator : UInt8) : Bytes → List Bytes
  | [] => [[]]
  | b :: s =>
    if b = separator then [] :: splitAt separator s
    else
      match splitAt separator s with
      | [] => [[b]]
      | part :: parts => (b :: part) :: parts

def pairOf (part : Bytes) : String × String :=
  (decodeText (part.takeWhile (· != 0x3D)), decodeText ((part.dropWhile (· != 0x3D)).drop 1))

/-- The pairs of a form; empty parts count for nothing. -/
def decode (s : Bytes) : List (String × String) :=
  ((splitAt 0x26 s).filter fun part => !part.isEmpty).map pairOf

example : decode (encode [("a b", "1&2=3"), ("*", "é%")]) = [("a b", "1&2=3"), ("*", "é%")] := by
  decide +kernel

end HostAlert.Http.Form
