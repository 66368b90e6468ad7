import HostAlert.Json.Number

/-!
# Passing over values

`skip` passes over one value of any kind and depth. It keeps the open brackets on a stack. Strings
inside are checked as by `skipText` and numbers as by `skipNumber`: a number may be of any size, and
a surrogate may stand alone.
-/

namespace HostAlert.Json

inductive Bracket
  | square
  | curly
  deriving DecidableEq

def Bracket.closing : Bracket → UInt8
  | square => 0x5D
  | curly => 0x7D

/-- Passes over a value that is neither list nor object; the bytes start with no white space. -/
def skipScalar (s : Bytes) : Except Fault Bytes :=
  match s with
  | [] => .error .truncated
  | b :: r =>
    if b = byte 'n' then word (utf8 "ull") r
    else if b = byte 't' then word (utf8 "rue") r
    else if b = byte 'f' then word (utf8 "alse") r
    else if b = 0x22 then skipText r
    else if b = byte '-' ∨ isDigit b then skipNumber s
    else .error .malformed

def skipName (s : Bytes) : Except Fault Bytes :=
  match skipSpace s with
  | [] => .error .truncated
  | b :: r => if b = 0x22 then skipText r >>= colon else .error .malformed

/-- Passes over the name before the next item, if the items have names. -/
def skipItemName (bracket : Bracket) (s : Bytes) : Except Fault Bytes :=
  match bracket with
  | .square => .ok s
  | .curly => skipName s

/-- What comes next while passing over a value. -/
inductive Expected
  /-- A value. -/
  | value
  /-- The first item after an opening bracket, or the closing one. -/
  | first
  /-- A comma or a closing bracket. -/
  | next
  deriving DecidableEq

/-- Passes over what is left of a value inside the given open brackets. `fuel` bounds the number of
steps; twice the number of bytes is always enough. -/
def skipWithin : (fuel : Nat) → Expected → List Bracket → Bytes → Except Fault Bytes
  | 0, _, _, _ => .error .truncated
  | _ + 1, .next, [], s => .ok s
  | fuel + 1, .next, bracket :: stack, s =>
    match skipSpace s with
    | [] => .error .truncated
    | b :: r =>
      if b = byte ',' then
        match skipItemName bracket r with
        | .ok s => skipWithin fuel .value (bracket :: stack) s
        | .error e => .error e
      else if b = bracket.closing then skipWithin fuel .next stack r
      else .error .malformed
  | fuel + 1, .first, stack, s =>
    match stack, skipSpace s with
    | [], _ => .error .malformed
    | _ :: _, [] => .error .truncated
    | bracket :: stack, b :: r =>
      if b = bracket.closing then skipWithin fuel .next stack r
      else
        match skipItemName bracket (b :: r) with
        | .ok s => skipWithin fuel .value (bracket :: stack) s
        | .error e => .error e
  | fuel + 1, .value, stack, s =>
    match skipSpace s with
    | [] => .error .truncated
    | b :: r =>
      if b = 0x5B then skipWithin fuel .first (.square :: stack) r
      else if b = 0x7B then skipWithin fuel .first (.curly :: stack) r
      else
        match skipScalar (b :: r) with
        | .ok s => skipWithin fuel .next stack s
        | .error e => .error e

def skip (s : Bytes) : Except Fault Bytes :=
  skipWithin (2 * s.length + 2) .value [] s

end HostAlert.Json
