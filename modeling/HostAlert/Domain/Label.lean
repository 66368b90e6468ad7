import HostAlert.Domain.Mapping
import HostAlert.Domain.Punycode
import HostAlert.Text.Direction
import HostAlert.Text.Joining
import HostAlert.Text.Normal
import HostAlert.Text.Split

/-!
# Names of hosts

A label is a part of a host name between dots. `read?` gives the text of a label, which may be
written as a Punycode after a mark; `toAscii` writes it with ASCII characters alone. A well-formed
label does not begin with a combining mark, and a joiner stands in it only where it shows
(`joinersFit`). When one label of a name is written from right to left, all of them have to keep
their directions apart (`keepsDirection`). `toAscii?` is a whole name in ASCII characters, as it is looked
up and as it stands in a URL.
-/

namespace HostAlert.Domain.Label

open Text (Direction Joining direction)

/-- What leads in a label that is written as a Punycode. -/
def mark : List Char := "xn--".toList

def maxCode : Nat := 2000

/-- The greatest length of a label that is not all of ASCII. -/
def maxWide : Nat := 1000

/-- Whether every character stands for itself and the text is composed. -/
def isStable (s : List Char) : Bool :=
  s.all (fun c => mapping? c == some [c]) && Text.composed s == s

def ofCode? (code : List Char) : Option (List Char) :=
  if code.isEmpty || code.getLast? == some '-' || maxCode < code.length ||
      !code.all Punycode.isAscii then none
  else (Punycode.decode? code).filter fun text => isStable text && !mark.isPrefixOf text

/-- The text of a label whose characters stand for themselves. -/
def read? (s : List Char) : Option (List Char) :=
  if mark.isPrefixOf s then ofCode? (s.drop mark.length) else some s

def toAscii (s : List Char) : List Char :=
  if s.all Punycode.isAscii then s else mark ++ Punycode.encode s

/-! ### Joiners -/

def nonJoiner : Char := '\u200c'

def joiner : Char := '\u200d'

/-- Whether the first character that is not transparent joins as is asked. -/
def joins (asked : Joining → Bool) : List Char → Bool
  | [] => false
  | c :: s =>
    match Text.joining? c with
    | none => false
    | some j => asked j || (j == .transparent && joins asked s)

/-- Whether a joiner fits between what comes before it, reversed, and what comes after it. -/
def fits (before : List Char) (c : Char) (after : List Char) : Bool :=
  match before with
  | [] => false
  | d :: _ =>
    Text.isVirama d ||
      (c == nonJoiner && joins Joining.joinsNext before && joins Joining.joinsPrevious after)

/-- Whether all joiners of a text fit. `before` comes before it, reversed. -/
def joinersFit (before : List Char) : List Char → Bool
  | [] => true
  | c :: s =>
    ((c != nonJoiner && c != joiner) || fits before c s) && joinersFit (c :: before) s

/-! ### Directions -/

def endsFromLeft (d : Direction) : Bool :=
  [Direction.leftToRight, .europeanNumber].contains d

def endsFromRight (d : Direction) : Bool :=
  [Direction.rightToLeft, .arabicLetter, .europeanNumber, .arabicNumber].contains d

def isNeutral (d : Direction) : Bool :=
  [Direction.europeanSeparator, .commonSeparator, .europeanTerminator, .otherNeutral,
    .boundaryNeutral, .nonspacingMark].contains d

/-- Whether a label keeps its direction: it begins with a letter, and all that follows goes with the
direction of that letter. A label from right to left has numbers of one kind only. -/
def keepsDirection (s : List Char) : Bool :=
  match s.map direction with
  | [] => true
  | first :: rest =>
    let body := rest.reverse.dropWhile (· == .nonspacingMark)
    if first = .leftToRight then
      body.head?.all endsFromLeft && body.all fun d => endsFromLeft d || isNeutral d
    else if first = .rightToLeft ∨ first = .arabicLetter then
      body.head?.all endsFromRight && (body.all fun d => endsFromRight d || isNeutral d) &&
        !(body.contains .europeanNumber && body.contains .arabicNumber)
    else false

/-! ### The whole -/

/-- Whether the text of a label is well formed by itself. -/
def isWellFormed (s : List Char) : Bool :=
  s.all Punycode.isAscii || (!s.head?.any Text.isMark && joinersFit [] s && s.length ≤ maxWide)

end HostAlert.Domain.Label

namespace HostAlert.Domain

def labels? (name : List Char) : Option (List (List Char)) := do
  let characters ← name.mapM mapping?
  (Text.splitOn (· == '.') (Text.composed characters.flatten)).mapM Label.read?

/-- Whether the labels may stand in one name. -/
def areWellFormed (labels : List (List Char)) : Bool :=
  labels.all Label.isWellFormed &&
    (!(labels.any fun s => s.any Text.turnsText) || labels.all Label.keepsDirection)

/-- The name in ASCII characters, unless it is not well formed. -/
def toAscii? (name : List Char) : Option (List Char) := do
  let labels ← labels? name
  if areWellFormed labels then return ['.'].intercalate (labels.map Label.toAscii) else none

example : toAscii? "Example.ORG".toList = some "example.org".toList := by decide +kernel
example : toAscii? "a.xn--".toList = none := by decide +kernel

end HostAlert.Domain
