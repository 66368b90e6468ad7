import HostAlert.Cli.Arguments
import HostAlert.Cli.EnvFile
import HostAlert.Codec.Document
import HostAlert.Control.Route
import HostAlert.Text.Split

/-!
# Launching the program

`launch` decides what the program does with its arguments, environment and files: it ends at once,
or it starts with the settings of a configuration file and serves the control interface when the
file says so. The environment file is read before everything else.
-/

namespace HostAlert.Cli

open Json (Wording)

/-- The control interface as it is served. -/
structure Service where
  address : Address.Ip
  port : UInt16
  policy : Control.Policy
  deriving DecidableEq

inductive Launch
  | help
  | wrong
  /-- It breaks off, as a variable of the environment file cannot be set. -/
  | aborted
  /-- It ends with these lines. -/
  | failed (lines : List String)
  | started (config : TelegramConfig) (service : Option Service)

/-- What is said of a file that cannot be used. -/
def failureText (file message : String) : String :=
  "Error: failed to load config from " ++ file ++ "\n\nCaused by:\n    " ++ message ++ "\n"

def failureLines (file message : String) : List String :=
  (Text.lines '\n' '\r' (failureText file message).toList).map String.ofList

def Service.ofSettings (settings : ApiSettings) (env : Environment) : Service :=
  ⟨settings.address, settings.port, ⟨settings.requiredToken env, settings.cors⟩⟩

/-- What the program does. `envFile` is the environment file, if there is one, and `read` gives the
content of a file or why it cannot be read. -/
def launch (wording : Wording) (args : List String) (env : Environment) (envFile : Option Bytes)
    (read : String → Except String Bytes) : Launch :=
  match (envFile.map (EnvFile.apply env)).getD (some env) with
  | none => .aborted
  | some env =>
    match Invocation.ofArguments args with
    | .help => .help
    | .wrong => .wrong
    | .run file =>
      match Document.ofFile env (read file) with
      | .error failure => .failed (failureLines file (failure.message wording))
      | .ok document =>
        .started document.telegram (document.api.map fun settings => .ofSettings settings env)

/-- The exit code of a program that ends before it starts, or is interrupted. -/
def Launch.exitCode : Launch → UInt8
  | help | started .. => 0
  | wrong => 2
  | aborted => 101
  | failed _ => 1

end HostAlert.Cli
