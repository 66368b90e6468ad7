import HostAlert.Codec.Config
import HostAlert.Config.Settings

/-!
# Configuration documents

A `Document` is the content of a configuration file: the settings of the notifications, and those
of the control interface when it is to be served.
-/

namespace HostAlert

open Json

namespace ApiSettings

def readAddress : Reader Address.Ip :=
  stringOf Address.Ip.ofText?

def readPort : Reader UInt16 := fun s => do
  let (n, rest) ← wholeIn 0 0xFFFF s
  .ok (n.toNat.toUInt16, rest)

def members : List (Member ApiSettings) :=
  [ .of "addr" .kept readAddress fun a v => { a with address := v },
    .of "port" .kept readPort fun a v => { a with port := v },
    .of "token" .keptInObject (optional string) fun a v => { a with token := v },
    .of "cors" .kept bool fun a v => { a with cors := v } ]

def read (env : Environment) : Reader ApiSettings :=
  record members (ofEnvironment env)

end ApiSettings

/-- The content of a configuration file. -/
structure Document where
  telegram : TelegramConfig
  api : Option ApiSettings

namespace Document

/-- Notifications are off and the control interface is not served. -/
def empty : Document := ⟨.initial, none⟩

def members (env : Environment) : List (Member Document) :=
  [ .of "telegram" .kept TelegramConfig.read fun d v => { d with telegram := v },
    .of "api" .keptInObject (optional (ApiSettings.read env)) fun d v => { d with api := v } ]

def read (env : Environment) : Reader Document :=
  record (members env) empty

/-- Why a configuration file cannot be used. -/
inductive Failure
  /-- The file cannot be read; the system says why. -/
  | unreadable (reason : String)
  /-- The content is no configuration document. -/
  | invalid (fault : Fault)

def Failure.message (wording : Wording) : Failure → String
  | unreadable reason => reason
  | invalid fault => "Invalid configuration file provided: " ++ wording fault

/-- What is said of a file whose content is not UTF-8. -/
def notText : String := "stream did not contain valid UTF-8"

/-- The document of a file's content, or of the reason why there is none. -/
def ofFile (env : Environment) (content : Except String Bytes) : Except Failure Document :=
  match content with
  | .error reason => .error (.unreadable reason)
  | .ok bytes =>
    if (Text.Utf8.decode? bytes).isNone then .error (.unreadable notText)
    else (document (read env) bytes).mapError .invalid

end Document

end HostAlert
