import HostAlert.Config.Settings
import HostAlert.Text.Alphanumeric
import HostAlert.Text.Blank
import HostAlert.Text.Split

/-!
# Environment files

A file of lines `NAME=value` that sets variables unless they are set already. A value may be quoted;
a backslash escapes; a dollar sign is replaced by the value of the variable it names, in the
environment or earlier in the file, except inside single quotes. Reading ends at the first line that
breaks these rules; what came before it counts. A variable that cannot be set is another matter: the
environment is then not there at all.
-/

namespace HostAlert.Cli.EnvFile

open Text (isBlank)

/-! ### Values -/

inductive Quotes
  | no
  | single
  | double
  deriving DecidableEq

/-- What the next character of a value belongs to. -/
inductive Place
  | plain (quotes : Quotes)
  /-- The character after a backslash. -/
  | escape (quotes : Quotes)
  /-- The name of a variable, reversed. -/
  | variable (quotes : Quotes) (name : List Char)
  /-- The name of a variable in braces, reversed. -/
  | braced (quotes : Quotes) (name : List Char)
  /-- After the value: only spaces and a comment may follow. -/
  | after
  /-- A comment. -/
  | comment
  deriving DecidableEq

/-- Whether the character belongs to the name of a variable without braces. -/
def isNameChar (c : Char) : Bool :=
  Text.isAlphanumeric c

/-- The characters that may follow a backslash, and what they stand for. -/
def escaped? (c : Char) : Option Char :=
  if c = '\x5c' ∨ c = '\x27' ∨ c = '\x22' ∨ c = '$' ∨ c = ' ' then some c
  else if c = 'n' then some '\n'
  else none

/-- One character of a value. `done` is the value so far, reversed. -/
def step (value : String → List Char) (done : List Char) (c : Char) :
    Place → Option (List Char × Place)
  | .comment => some (done, .comment)
  | .after =>
    if c = ' ' ∨ c = '\t' then some (done, .after)
    else if c = '#' then some (done, .comment)
    else none
  | .escape quotes => (escaped? c).map fun d => (d :: done, .plain quotes)
  | .plain .single =>
    if c = '\x27' then some (done, .plain .no) else some (c :: done, .plain .single)
  | .plain quotes =>
    if c = '$' then some (done, .variable quotes [])
    else if c = '\x5c' then some (done, .escape quotes)
    else if quotes = .double then
      if c = '\x22' then some (done, .plain .no) else some (c :: done, .plain .double)
    else if c = '\x27' then some (done, .plain .single)
    else if c = '\x22' then some (done, .plain .double)
    else if c = ' ' ∨ c = '\t' then some (done, .after)
    else some (c :: done, .plain .no)
  | .variable quotes name =>
    if isNameChar c then some (done, .variable quotes (c :: name))
    else if c = '\x7b' ∧ name = [] then some (done, .braced quotes [])
    else
      let filled := (value (String.ofList name.reverse)).reverse ++ done
      if c = '$' then some (filled, .variable quotes [])
      else some (c :: filled, .plain quotes)
  | .braced quotes name =>
    if c = '\x7d' then some ((value (String.ofList name.reverse)).reverse ++ done, .plain quotes)
    else some (done, .braced quotes (c :: name))

/-- The value of the text after an equals sign. -/
def valueOf? (value : String → List Char) (s : List Char) : Option String := do
  let (done, place) ←
    s.foldlM (fun (done, place) c => step value done c place) ([], Place.plain .no)
  match place with
  | .plain .no | .escape .no | .after | .comment => some (String.ofList done.reverse)
  | .variable .no name =>
    some (String.ofList (((value (String.ofList name.reverse)).reverse ++ done).reverse))
  | _ => none

/-! ### Lines -/

/-- The name at the front of a line. -/
def name? (s : List Char) : Option (List Char × List Char) :=
  let isPart (c : Char) : Bool := c.isAlphanum || c == '_' || c == '.'
  match s with
  | [] => none
  | c :: _ => if c.isAlpha || c == '_' then some (s.takeWhile isPart, s.dropWhile isPart) else none

def skipBlank (s : List Char) : List Char :=
  s.dropWhile isBlank

def afterEquals? : List Char → Option (List Char)
  | '=' :: s => some s
  | _ => none

/-- The name of a line and the text of its value; a name may be led in by the word export. -/
def assignment? (line : List Char) : Option (List Char × List Char) := do
  let (name, rest) ← name? line
  let rest := skipBlank rest
  match afterEquals? rest with
  | some value => return (name, skipBlank value)
  | none =>
    if name = "export".toList then
      let (name, rest) ← name? rest
      let value ← afterEquals? (skipBlank rest)
      return (name, skipBlank value)
    else none

/-- The values set in a file so far. -/
abbrev Known := List (String × String)

/-- What a variable is replaced by: its value in the environment, else in the file. -/
def valueIn (env : Environment) (known : Known) (name : String) : List Char :=
  ((env.get? name).getD ((known.lookup name).getD "")).toList

/-- The variable that a line sets, if it sets one; none when the line breaks the rules. -/
def setting? (env : Environment) (known : Known) (line : List Char) :
    Option (Option (String × String)) :=
  let line := skipBlank (Text.trimEnd line)
  if line = [] ∨ line.head? = some '#' then some none
  else do
    let (name, text) ← assignment? line
    let value ←
      if text = [] ∨ text.head? = some '#' then some "" else valueOf? (valueIn env known) text
    return some (String.ofList name, value)

/-- Whether the variable can be set; a value that would be set must not hold a zero character. -/
def isSettable (env : Environment) (name value : String) : Bool :=
  (env.get? name).isSome || !value.toList.contains '\x00'

/-- The environment after the lines of a file; none when a variable cannot be set. -/
def applyLines (env : Environment) (known : Known) : List Bytes → Option Environment
  | [] => some env
  | line :: lines =>
    match (Text.Utf8.decode? line).bind (setting? env known) with
    | none => some env
    | some none => applyLines env known lines
    | some (some (name, value)) =>
      if isSettable env name value then
        applyLines (env.setDefault name value) ((name, value) :: known) lines
      else none

def apply (env : Environment) (file : Bytes) : Option Environment :=
  applyLines env [] (Text.lines 0x0A 0x0D file)

end HostAlert.Cli.EnvFile
