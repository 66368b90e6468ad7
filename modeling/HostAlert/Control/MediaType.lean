/-!
# Media types

A `MediaType` is the value of a content type: its type, its subtype and the suffix after the last
plus sign of the subtype. The parameters are checked and dropped.
-/

namespace HostAlert.Control

/-- A media type without its parameters, in lower case. -/
structure MediaType where
  type : List Char
  subtype : List Char
  suffix : Option (List Char)
  deriving DecidableEq

namespace MediaType

def isToken (c : Char) : Bool :=
  c.isAlphanum || "!#$%&*+-.^_|~".toList.contains c || c == '\x27' || c == '\x60'

def isQuotable (c : Char) : Bool :=
  0x20 ≤ c.toNat && c.toNat != 0x7F

/-! ### Parameters -/

/-- Where the reading of parameters stands. -/
inductive Place
  | start
  | name
  | valueStart
  | value
  | quoteStart
  | quoted
  | afterQuote
  deriving DecidableEq

/-- One character of the parameters. The first character after an opening quote never closes it. -/
def Place.step (c : Char) : Place → Option Place
  | start => if c = ' ' then some start else if isToken c then some name else none
  | name => if isToken c then some name else if c = '=' then some valueStart else none
  | valueStart => if c = '\x22' then some quoteStart else if isToken c then some value else none
  | value => if isToken c then some value else if c = ';' then some start else none
  | quoteStart => if isQuotable c then some quoted else none
  | quoted => if c = '\x22' then some afterQuote else if isQuotable c then some quoted else none
  | afterQuote => if c = ' ' then some afterQuote else if c = ';' then some start else none

def Place.isFinal : Place → Bool
  | start | valueStart | value | afterQuote => true
  | name | quoteStart | quoted => false

def isParameters (s : List Char) : Bool :=
  match s.foldlM (fun place c => Place.step c place) Place.start with
  | some place => place.isFinal
  | none => false

/-! ### The whole -/

/-- The subtype before its last plus sign, and the suffix after it; a plus sign in front does not
count. -/
def splitSuffix (s : List Char) : List Char × Option (List Char) :=
  let suffix := (s.reverse.takeWhile (· != '+')).reverse
  let front := s.take (s.length - suffix.length - 1)
  if front.isEmpty then (s, none) else (front, some suffix)

def ofText? (text : List Char) : Option MediaType :=
  let type := text.takeWhile isToken
  match text.dropWhile isToken with
  | '/' :: rest =>
    let subtype := rest.takeWhile isToken
    let valid :=
      match rest.dropWhile isToken with
      | [] => true
      | ';' :: parameters => !subtype.isEmpty && isParameters parameters
      | _ => false
    if type.isEmpty || !valid then none
    else
      let lower := subtype.map Char.toLower
      some ⟨type.map Char.toLower, (splitSuffix lower).1, (splitSuffix lower).2⟩
  | _ => none

/-- Whether the media type is JSON, by name or by suffix. -/
def isJson (m : MediaType) : Bool :=
  m.type == "application".toList &&
    (m.subtype == "json".toList || m.suffix == some "json".toList)

example : (ofText? "application/vnd.api+json; charset=utf-8".toList).map isJson = some true := by
  decide +kernel
example : (ofText? "application/json ".toList).map isJson = none := by decide +kernel

end MediaType

end HostAlert.Control
