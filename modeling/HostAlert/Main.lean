import HostAlert.Cli.Launch
import HostAlert.Host
import HostAlert.Manager.Supervisor
import HostAlert.Manager.System
import Mathlib.Tactic.DeprecateTo

/-!
# The program

Reads the arguments, the environment and the files, and runs the check loop until the program is
interrupted. What is done is decided by `Cli.launch` and the machines of `HostAlert.Manager`; here
are only reading, waiting and printing. `Surroundings` is all that a loop meets. The program has no
connections of its own: a call that it makes fails, and the control interface is not served.
-/

namespace HostAlert.Program

open Manager

/-! ### Files and environment -/

/-- The number of an error, which may be given with a minus sign. -/
def errorNumber (code : UInt32) : Nat :=
  if code < 0x80000000 then code.toNat else UInt32.size - code.toNat

def errorText (details : String) (code : UInt32) : String :=
  details.capitalize ++ " (os error " ++ toString (errorNumber code) ++ ")"

/-- What the system says of an error with a file. -/
def reason : IO.Error → String
  | .noFileOrDirectory _ code details | .permissionDenied _ code details
  | .inappropriateType _ code details | .invalidArgument _ code details
  | .resourceExhausted _ code details | .otherError code details => errorText details code
  | e => toString e

/-- The content of a file, or why it cannot be read. -/
def content (file : String) : IO (Except String Bytes) := do
  try
    return .ok (← IO.FS.readBinFile file).toList
  catch e => return .error (reason e)

/-- The first environment file in this folder and those above it. -/
def envFile : IO (Option Bytes) := do
  let mut file := ".env"
  for _ in [0:64] do
    if let .ok bytes ← content file then return some bytes
    file := "../" ++ file
  return none

/-- The variable of an entry, whose name ends at the first equals sign. -/
def variableOf (entry : Bytes) : Option (String × Bytes) := do
  let name ← Text.Utf8.decode? (entry.takeWhile (· != 0x3D))
  return (String.ofList name, (entry.dropWhile (· != 0x3D)).drop 1)

/-- The environment of the program; its entries end with zero bytes. -/
def environment : IO Environment := do
  match ← content "/proc/self/environ" with
  | .ok block => return ⟨(Http.Form.splitAt 0 block).filterMap variableOf⟩
  | .error _ => return ⟨[]⟩

/-! ### The loop -/

/-- What a running loop meets. -/
structure Surroundings where
  base : String
  snapshot : IO Snapshot
  call : Http.Call → IO Http.Answer
  now : IO Instant

def Surroundings.supply (s : Surroundings) : Want → IO (Option Event)
  | .nothing => return none
  | .entry => return some (.enter (← s.now) (← s.now))
  | .snapshot => return some (.collected (← s.snapshot))
  | .answer call => return some (.answered (← s.call call))

/-- The most milliseconds that one sleep takes. -/
def longestSleep : Nat := 86400000

/-- Sleeps for so many milliseconds, in several sleeps when they are too many for one. -/
def sleepFor (millis : Nat) : IO Unit :=
  if millis ≤ longestSleep then IO.sleep millis.toUInt32
  else do
    IO.sleep longestSleep.toUInt32
    sleepFor (millis - longestSleep)
termination_by millis
decreasing_by
  unfold longestSleep at *
  omega

/-- The loop runs until the program is interrupted. -/
partial def loop (s : Surroundings) (shared : Shared) (worker : Worker) : IO Unit := do
  match worker.loop with
  | .reading => loop s shared (worker.rest shared)
  | .sleeping interval =>
    sleepFor interval.millis
    loop s shared worker.wake
  | .checking _ =>
    match ← s.supply worker.want with
    | none => return
    | some event =>
      match worker.step s.base shared event with
      | some (shared, worker) => loop s shared worker
      | none => return
  | .exited => return

/-- The text of a file without the blank characters at its ends, if it can be read. -/
def textOf (file : String) : IO (Option String) := do
  match ← content file with
  | .ok bytes => return some (Text.trimmed (String.ofList (Text.Utf8.decodeLossy bytes)))
  | .error _ => return none

/-- What this program can read of the host. -/
def hostReading : IO HostReading := do
  return {
    os := "linux"
    osName := some "Linux"
    osRelease := ← textOf "/proc/sys/kernel/osrelease"
    arch := ""
    hostname := ← textOf "/proc/sys/kernel/hostname"
    processors := []
    cpuUsage := 0
    memoryTotal := 0
    memoryUsed := 0
    memoryAvailable := 0
    memoryFree := 0
    mounts := []
    interfaces := []
    uptimeSeconds := 0 }

def surroundings : Surroundings where
  base := Delivery.apiBase
  snapshot := return (← hostReading).snapshot ""
  call _ := return .failed
  now := return ⟨(← Std.Time.Timestamp.now).toNanosecondsSinceUnixEpoch.toInt⟩

/-! ### Launching -/

def wording : Json.Wording
  | .malformed => "it is no JSON"
  | .mistyped => "a value is not of the right kind"
  | .truncated => "it ends too early"

def run (args : List String) : IO UInt32 := do
  let env ← environment
  let envFile ← envFile
  let file ←
    match Cli.Invocation.ofArguments args with
    | .run file => content file
    | _ => pure (.ok [])
  let launch := Cli.launch wording args env envFile fun _ => file
  match launch with
  | .help => IO.println Cli.helpText
  | .wrong => IO.eprintln Cli.usageText
  | .aborted => IO.eprintln "a variable of the environment file cannot be set"
  | .failed lines => lines.forM IO.eprintln
  | .started config _ => loop surroundings (.initial config) (.started false)
  return launch.exitCode.toUInt32

end HostAlert.Program

def main (args : List String) : IO UInt32 :=
  HostAlert.Program.run args
