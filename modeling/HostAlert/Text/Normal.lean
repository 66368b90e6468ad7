import HostAlert.Text.Combining
import HostAlert.Text.Composite

/-!
# Canonical composition

`composed` is the Unicode normalization form C of a text: composites are taken apart, marks are put
in the order of their classes, and a character is then put together with the marks after it that
make a composite with it.
-/

namespace HostAlert.Text

/-! ### Taking apart -/

/-- The number of times that a composite can be taken apart. -/
def maxDepth : Nat := 4

def apartWithin : (depth : Nat) → Char → List Char
  | 0, c => [c]
  | depth + 1, c =>
    match Composite.pair? c with
    | none => [c]
    | some (first, second) => apartWithin depth first ++ apartWithin depth second

/-- The text with all composites taken apart. -/
def apart (s : List Char) : List Char :=
  s.flatMap (apartWithin maxDepth)

/-! ### Putting in order -/

abbrev Classed : Type := Char × Nat

def classed (c : Char) : Classed :=
  (c, combiningClass c)

/-- Puts a character in front of a text, but a mark behind the marks of lower classes. -/
def insertMark (c : Classed) : List Classed → List Classed
  | [] => [c]
  | d :: s => if d.2 ≠ 0 ∧ d.2 < c.2 then d :: insertMark c s else c :: d :: s

def ordered (s : List Classed) : List Classed :=
  s.foldr insertMark []

/-! ### Putting together -/

structure Assembly where
  /-- What comes before the last character of class zero, reversed. -/
  done : List Char
  /-- The last character of class zero. -/
  base : Option Char
  /-- The marks after it that make no composite with it, reversed. -/
  marks : List Char
  /-- The class of the last of these marks. -/
  lastClass : Nat

namespace Assembly

/-- The text that has been put together, reversed. -/
def reversed (a : Assembly) : List Char :=
  a.marks ++ a.base.toList ++ a.done

/-- Whether nothing stands between the last character of class zero and one of this class. -/
def isOpen (a : Assembly) (k : Nat) : Bool :=
  a.marks.isEmpty || a.lastClass < k

def push (a : Assembly) (c : Classed) : Assembly :=
  match if a.isOpen c.2 then a.base.bind fun b => Composite.compose? b c.1 else none with
  | some whole => { a with base := some whole }
  | none =>
    if c.2 = 0 then ⟨a.reversed, some c.1, [], 0⟩
    else { a with marks := c.1 :: a.marks, lastClass := c.2 }

end Assembly

def together (s : List Classed) : List Char :=
  (s.foldl Assembly.push ⟨[], none, [], 0⟩).reversed.reverse

/-- The normalization form C of a text. Characters in front of the first mark are in that form. -/
def composed (s : List Char) : List Char :=
  if s.all fun c => c.toNat < firstMark then s
  else together (ordered ((apart s).map classed))

end HostAlert.Text
