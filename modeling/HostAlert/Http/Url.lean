import HostAlert.Address.Notation
import HostAlert.Domain.Label
import HostAlert.Text.Split
import HostAlert.Text.Utf8

/-!
# Absolute URLs

`Url.ofText?` reads an absolute URL of the schemes http and https as browsers do: tabs and line
feeds are dropped, a backslash counts as a slash, dot segments are resolved, and characters that may
not stand in a path, query or fragment are percent-encoded. The name of a host is written in ASCII.
`Url.target` is what a request line says of the URL.
-/

namespace HostAlert.Http

open Address (Ip V4)

inductive Host
  | name (s : String)
  | address (a : Ip)
  deriving DecidableEq

/-- An absolute URL. What it says of a user is left out. -/
structure Url where
  secure : Bool
  host : Host
  port : Nat
  path : List (List Char)
  query : Option (List Char)
  fragment : Option (List Char)
  deriving DecidableEq

namespace Url

/-! ### Preparation -/

def isControlOrSpace (c : Char) : Bool :=
  c.toNat ≤ 0x20

def isTabOrNewline (c : Char) : Bool :=
  c == '\t' || c == '\n' || c == '\r'

/-- The text without control characters and spaces at its ends, and without tabs and line feeds. -/
def prepared (s : List Char) : List Char :=
  let front := s.dropWhile isControlOrSpace
  let both := (front.reverse.dropWhile isControlOrSpace).reverse
  both.filter fun c => !isTabOrNewline c

def isSlash (c : Char) : Bool :=
  c == '/' || c == '\x5c'

/-- Whether the character ends the part of a URL that names the host. -/
def endsAuthority (c : Char) : Bool :=
  isSlash c || c == '?' || c == '#'

/-! ### Scheme -/

/-- The scheme in lower case and the text after its colon. -/
def scheme? (s : List Char) : Option (List Char × List Char) :=
  let isPart (c : Char) : Bool := c.isAlphanum || c == '+' || c == '-' || c == '.'
  match s with
  | [] => none
  | c :: _ =>
    if !c.isAlpha then none
    else
      match s.dropWhile isPart with
      | ':' :: rest => some ((s.takeWhile isPart).map Char.toLower, rest)
      | _ => none

/-! ### Host and port -/

/-- Replaces percent signs with two hexadecimal digits by their bytes. -/
def percentDecode : List Char → Bytes
  | [] => []
  | c :: s =>
    if c = '%' then
      match s with
      | h :: l :: r =>
        if Text.isHexDigit h && Text.isHexDigit l then
          (Text.hexValue h * 16 + Text.hexValue l).toUInt8 :: percentDecode r
        else 0x25 :: percentDecode (h :: l :: r)
      | r => 0x25 :: percentDecode r
    else String.utf8EncodeChar c ++ percentDecode s

/-- Whether the character may stand in the name of a host that is written in ASCII. -/
def isHostChar (c : Char) : Bool :=
  c.isAlphanum || "!$&()*+,-.;=_~".toList.contains c || c == '\x27'

/-- The value of a part of an IPv4 address: decimal, octal after a zero, hexadecimal after 0x. -/
def partValue? (s : List Char) : Option Nat :=
  let value (base : Nat) (digits : List Char) : Option Nat :=
    if digits.all fun c => Text.isHexDigit c && Text.hexValue c < base then
      some (digits.foldl (fun n c => n * base + Text.hexValue c) 0)
    else none
  match s with
  | [] => none
  | ['0'] => some 0
  | '0' :: 'x' :: digits => value 16 digits
  | '0' :: 'X' :: digits => value 16 digits
  | '0' :: digits => value 8 digits
  | digits => value 10 digits

/-- The labels of a host name without an empty last one. -/
def labels (s : List Char) : List (List Char) :=
  let parts := Text.splitOn (· == '.') s
  if 1 < parts.length ∧ parts.getLast? = some [] then parts.dropLast else parts

/-- Whether the last label is a number, so that the host has to be an IPv4 address. -/
def endsInNumber (s : List Char) : Bool :=
  match (labels s).getLast? with
  | none => false
  | some label =>
    (!label.isEmpty && label.all Char.isDigit) ||
      ((label.take 2 == ['0', 'x'] || label.take 2 == ['0', 'X']) && (partValue? label).isSome)

/-- The IPv4 address of up to four numbers; the last one fills all bytes that are left. -/
def v4OfNumbers? (numbers : List Nat) : Option V4 :=
  match numbers.getLast? with
  | none => none
  | some last =>
    let front := numbers.dropLast
    let room := Nat.pow 256 (5 - numbers.length)
    if 4 < numbers.length || front.any (255 < ·) || room ≤ last then none
    else
      let n := front.zipIdx.foldl (fun n (b, i) => n + b * Nat.pow 256 (3 - i)) last
      some ⟨(n / 0x1000000).toUInt8, (n / 0x10000 % 256).toUInt8, (n / 0x100 % 256).toUInt8,
        (n % 256).toUInt8⟩

def host? (s : List Char) : Option Host :=
  match s with
  | '[' :: rest =>
    if rest.getLast? = some ']' then
      match Address.readV6 rest.dropLast with
      | some (a, []) => some (.address (.v6 a))
      | _ => none
    else none
  | _ => do
    let name ← Domain.toAscii? (← Text.Utf8.decode? (percentDecode s))
    if name.isEmpty || !name.all isHostChar then none
    else if endsInNumber name then
      let numbers ← (labels name).mapM partValue?
      let a ← v4OfNumbers? numbers
      return .address (.v4 a)
    else return .name (String.ofList name)

/-- The text of a host and that of its port; a colon inside brackets does not separate them. -/
def hostAndPort (inBrackets : Bool) : List Char → List Char × Option (List Char)
  | [] => ([], none)
  | c :: s =>
    if c = ':' ∧ !inBrackets then ([], some s)
    else
      let stillInside := if c = '[' then true else if c = ']' then false else inBrackets
      let (host, port) := hostAndPort stillInside s
      (c :: host, port)

/-- The port of a text; nothing stands for the port of the scheme. -/
def port? (secure : Bool) : Option (List Char) → Option Nat
  | none | some [] => some (if secure then 443 else 80)
  | some digits =>
    if digits.all Char.isDigit then
      let n : Nat := digits.foldl (fun n c => n * 10 + Text.decimalValue c) 0
      if n < UInt16.size then some n else none
    else none

/-- The text after the last at sign, or all of it. -/
def withoutUser (s : List Char) : List Char :=
  (s.reverse.takeWhile (· != '@')).reverse

/-! ### Path and query -/

def percentEncode (c : Char) : List Char :=
  let digit (n : Nat) : Char := ((Nat.toDigits 16 n).headD '0').toUpper
  (String.utf8EncodeChar c).flatMap fun b => ['%', digit (b.toNat / 16), digit (b.toNat % 16)]

def isControlOrWide (c : Char) : Bool :=
  c.toNat < 0x20 || 0x7E < c.toNat

def encodeInPath (c : Char) : List Char :=
  if isControlOrWide c || " \x22#<>?\x60\x7b\x7d".toList.contains c then percentEncode c else [c]

def encodeInQuery (c : Char) : List Char :=
  if isControlOrWide c || " \x22#<>\x27".toList.contains c then percentEncode c else [c]

def encodeInFragment (c : Char) : List Char :=
  if isControlOrWide c || " \x22<>\x60".toList.contains c then percentEncode c else [c]

/-- Whether the segment stands for the current directory. -/
def isSingleDot (segment : List Char) : Bool :=
  [".", "%2e"].contains (String.ofList (segment.map Char.toLower))

/-- Whether the segment stands for the parent directory. -/
def isDoubleDot (segment : List Char) : Bool :=
  ["..", ".%2e", "%2e.", "%2e%2e"].contains (String.ofList (segment.map Char.toLower))

/-- Whether the segment names a drive: a letter and a colon or a bar. -/
def isDrive : List Char → Bool
  | [letter, mark] => letter.isAlpha && (mark == ':' || mark == '|')
  | _ => false

/-- The parent of a path, which is reversed. A path that ends in a drive has no other parent than
itself. -/
def parent : List (List Char) → List (List Char)
  | [] => []
  | last :: front => if isDrive last then last :: front else front

/-- Adds segments to a path, which is reversed. A dot segment at the end leaves an empty one. -/
def resolve (path : List (List Char)) : List (List Char) → List (List Char)
  | [] => path.reverse
  | segment :: rest =>
    if isDoubleDot segment then
      let parent := parent path
      resolve (if rest.isEmpty then [] :: parent else parent) rest
    else if isSingleDot segment then resolve (if rest.isEmpty then [] :: path else path) rest
    else resolve (segment :: path) rest

/-- The segments of the text of a path, which starts with a slash unless it is empty. -/
def segments (s : List Char) : List (List Char) :=
  resolve [] ((Text.splitOn isSlash (s.drop 1)).map fun segment => segment.flatMap encodeInPath)

/-! ### The whole -/

def after? (mark : Char) (s : List Char) : Option (List Char) :=
  match s.dropWhile (· != mark) with
  | [] => none
  | _ :: rest => some rest

/-- The URL of a text, if it is absolute, well formed and of one of the two schemes. -/
def ofText? (text : String) : Option Url := do
  let (scheme, rest) ← scheme? (prepared text.toList)
  if scheme ≠ "http".toList ∧ scheme ≠ "https".toList then none
  else
    let secure := decide (scheme = "https".toList)
    let rest := rest.dropWhile isSlash
    let authority := withoutUser (rest.takeWhile fun c => !endsAuthority c)
    let rest := rest.dropWhile fun c => !endsAuthority c
    let fragment := (after? '#' rest).map fun f => f.flatMap encodeInFragment
    let rest := rest.takeWhile (· != '#')
    let query := (after? '?' rest).map fun q => q.flatMap encodeInQuery
    let (hostText, portText) := hostAndPort false authority
    let host ← host? hostText
    let port ← port? secure portText
    return ⟨secure, host, port, segments (rest.takeWhile (· != '?')), query, fragment⟩

def pathText (u : Url) : List Char :=
  u.path.flatMap fun segment => '/' :: segment

/-- A part of a URL with the mark that leads it in. -/
def led (mark : Char) : Option (List Char) → List Char
  | none => []
  | some part => mark :: part

/-- The path with the query, as sent to the host. -/
def target (u : Url) : String :=
  String.ofList (u.pathText ++ led '?' u.query)

def hostText : Host → List Char
  | .name s => s.toList
  | .address (.v4 a) => a.toText
  | .address (.v6 a) => '[' :: (a.toText ++ [']'])

/-- The text of the port, unless it is that of the scheme. -/
def portText (u : Url) : List Char :=
  if u.port = (if u.secure then 443 else 80) then [] else ':' :: Text.decimal u.port

def text (u : Url) : List Char :=
  (if u.secure then "https" else "http").toList ++ "://".toList ++ hostText u.host ++ u.portText ++
    u.target.toList ++ led '#' u.fragment

/-- The greatest length of a URL that a request can be sent to. -/
def maxLength : Nat := 65534

def isSendable (u : Url) : Bool :=
  u.text.length ≤ maxLength

end Url

end HostAlert.Http
