import HostAlert.Address.Notation
import HostAlert.Text.Blank
import HostAlert.Text.Utf8

/-!
# Settings of the control interface

Where the control interface listens and what it asks of its callers. Address and port fall back to
the `Environment`, and from there to `127.0.0.1` and `3030`. A variable of the environment whose
value is not UTF-8 counts as unset when it is read as a text.
-/

namespace HostAlert

open Address (Ip)

/-- Variables and their values; the first entry of a name counts. -/
structure Environment where
  entries : List (String × Bytes)

namespace Environment

def get? (env : Environment) (name : String) : Option String := do
  let value ← env.entries.lookup name
  let chars ← Text.Utf8.decode? value
  return String.ofList chars

/-- Sets a variable unless it has a text already. -/
def setDefault (env : Environment) (name value : String) : Environment :=
  if (env.get? name).isSome then env else ⟨(name, utf8 value) :: env.entries⟩

end Environment

structure ApiSettings where
  address : Ip
  port : UInt16
  token : Option String
  cors : Bool
  deriving DecidableEq

namespace ApiSettings

def addressVariable : String := "HOSTWATCH_ADDR"

def portVariable : String := "HOSTWATCH_PORT"

def secretVariable : String := "HOSTWATCH_SECRET"

def defaultAddress : Ip := .v4 .localhost

def defaultPort : UInt16 := 3030

/-- The port of a text: decimal digits, with a plus sign or without. -/
def portOfText? (text : String) : Option UInt16 :=
  let digits :=
    match text.toList with
    | '+' :: rest => rest
    | s => s
  if digits.isEmpty || !digits.all Char.isDigit then none
  else
    let n : Nat := digits.foldl (fun n c => n * 10 + (c.toNat - '0'.toNat)) 0
    if n < UInt16.size then some n.toUInt16 else none

def addressOf (env : Environment) : Ip :=
  ((env.get? addressVariable).bind Ip.ofText?).getD defaultAddress

def portOf (env : Environment) : UInt16 :=
  ((env.get? portVariable).bind portOfText?).getD defaultPort

/-- The secret of the environment, unless it is blank. -/
def secretOf (env : Environment) : Option String :=
  (env.get? secretVariable).filter fun secret => !(Text.trimmed secret).isEmpty

/-- The settings where a document says nothing. -/
def ofEnvironment (env : Environment) : ApiSettings :=
  ⟨addressOf env, portOf env, none, false⟩

/-- The token that callers have to present: that of the settings, else that of the environment. -/
def requiredToken (settings : ApiSettings) (env : Environment) : Option String :=
  settings.token <|> secretOf env

end ApiSettings

def socketText (address : Ip) (port : UInt16) : String :=
  match address with
  | .v4 _ => address.toText ++ ":" ++ toString port.toNat
  | .v6 _ => "[" ++ address.toText ++ "]:" ++ toString port.toNat

end HostAlert
