/-!
# Request targets

What the first line of a request asks for: a path with a query, a whole URL, a host or an asterisk.
`Target.path?` is the path of a target. The fragment of a target is not looked at.
-/

namespace HostAlert.Control.Target

/-! ### Hosts -/

/-- What is known of a text that may name a host, a user and a port. -/
structure Scan where
  /-- The number of colons since the user or the brackets. -/
  colons : Nat
  /-- Whether a percent sign came since then. -/
  percent : Bool
  opened : Bool
  closed : Bool

/-- The greatest number of colons in a row of characters without brackets and at signs. -/
def maxColons : Nat := 8

def Scan.step (s : Scan) (c : Char) : Option Scan :=
  if c = ':' then if s.colons < maxColons then some { s with colons := s.colons + 1 } else none
  else if c = '[' then if s.percent || s.opened then none else some { s with opened := true }
  else if c = ']' then
    if !s.opened || s.closed then none else some ⟨0, false, true, true⟩
  else if c = '@' then some { s with colons := 0, percent := false }
  else if c = '%' then some { s with percent := true }
  else if c.isAlphanum || "!$&()*+,-.;=_~".toList.contains c || c == '\x27' then some s
  else none

/-- Whether the text can name a host, with a user in front and a port behind. -/
def isAuthority (s : List Char) : Bool :=
  match s.foldlM Scan.step ⟨0, false, false, false⟩ with
  | none => false
  | some scan =>
    !s.isEmpty && scan.opened == scan.closed && scan.colons ≤ 1 && !scan.percent &&
      s.getLast? != some '@'

/-! ### Paths and URLs -/

def endsPath (c : Char) : Bool :=
  c == '?' || c == '#'

def isPathChar (c : Char) : Bool :=
  0x20 < c.toNat && !"<>\x60".toList.contains c

def isQueryChar (c : Char) : Bool :=
  0x20 < c.toNat && !"\x22<>".toList.contains c

/-- The path of a text that holds a path and a query, unless it holds a wrong character. -/
def pathOf? (s : List Char) : Option (List Char) :=
  let path := s.takeWhile fun c => !endsPath c
  let query := (s.takeWhile (· != '#')).dropWhile (· != '?')
  if path.all isPathChar && query.all isQueryChar then some path else none

def isSchemeChar (c : Char) : Bool :=
  c.isAlphanum || c == '+' || c == '-' || c == '.'

def maxScheme : Nat := 64

/-- The text after a scheme and two slashes. -/
def afterScheme? (s : List Char) : Option (List Char) :=
  match s.dropWhile isSchemeChar with
  | ':' :: '/' :: '/' :: rest => if rest.length + 3 + maxScheme < s.length then none else some rest
  | _ => none

/-- The path of a target: that of a path or URL, none of a host, an asterisk itself. A URL without a
path has the shortest one. -/
def path? (s : List Char) : Option (List Char) :=
  match s with
  | ['*'] => some ['*']
  | '/' :: _ => pathOf? s
  | _ =>
    match afterScheme? s with
    | none => if isAuthority s then some [] else none
    | some rest =>
      let endsHost (c : Char) : Bool := c == '/' || endsPath c
      if isAuthority (rest.takeWhile fun c => !endsHost c) then
        (pathOf? (rest.dropWhile fun c => !endsHost c)).map fun path =>
          if path.isEmpty then ['/'] else path
      else none

example : path? "/a/b?c=d#e".toList = some "/a/b".toList := by decide +kernel
example : path? "http://u:p@[::1]:80?q".toList = some "/".toList := by decide +kernel
example : path? "host:80".toList = some [] := by decide +kernel
example : path? "a/b".toList = none := by decide +kernel

end HostAlert.Control.Target
