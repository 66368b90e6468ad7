import HostAlert.Manager.Supervisor
import HostAlert.Manager.System
import HostAlert.Rehearsal.Peer

/-!
# Sessions

A `Session` rehearses one manager: it holds the shared state, the supervisor of the check loop and
what they meet, which are the host's readings, a scripted peer and a clock. `Session.give` lets a
machine have what it waits for, and `Session.run` does so at once until a task has ended. For checks
a call takes its time, which is `Peer.delay`. In that time the loop goes on: a `Session.turn` is what
it does next, `Session.advance` lets time pass with all the turns that fall into it, and
`Session.runCheck` runs another check beside them.
-/

namespace HostAlert.Rehearsal

open Manager

/-- A manager with what it meets. -/
structure Session where
  shared : Shared
  /-- Where the bot interface is reached. -/
  base : String
  /-- What a collected snapshot says. -/
  info : Snapshot
  peer : Peer
  now : Instant
  /-- Whether a snapshot was collected since this was last asked. -/
  collected : Bool
  supervisor : Supervisor
  /-- When the registered loop wakes, or its check has what it waits for. -/
  turnAt : Instant
  /-- Whether the program shuts down, as far as loops that begin now can tell. -/
  shutDown : Bool

namespace Session

/-- The time between two readings of the clock. -/
def tick : Span := ⟨1000⟩

/-- The time that it takes to say what was seen. -/
def reportTime : Span := .ofMillis 15

def start (config : TelegramConfig) (base : String) (info : Snapshot) (peer : Peer)
    (now : Instant) : Session :=
  ⟨.initial config, base, info, peer, now, false, .initial, now, false⟩

/-- The event that is waited for, and the session in which it has happened. -/
def supply (s : Session) : Want → Option (Session × Event)
  | .nothing => none
  | .entry =>
    let attempt := s.now.after tick
    some ({ s with now := attempt.after tick }, .enter s.now attempt)
  | .snapshot => some ({ s with collected := true }, .collected s.info)
  | .answer call =>
    let (peer, answer, meanwhile) := s.peer.take call
    let shared := (meanwhile.map s.shared.replaceConfig).getD s.shared
    some ({ s with peer := peer, shared := shared }, .answered answer)

/-- A machine has what it waits for. -/
def give {τ : Type} (want : τ → Want)
    (step : String → Shared → τ → Event → Option (Shared × τ)) (s : Session) (t : τ) :
    Option (Session × τ) :=
  match s.supply (want t) with
  | none => none
  | some (s, event) =>
    match step s.base s.shared t event with
    | none => none
    | some (shared, t) => some ({ s with shared := shared }, t)

def runFor : (steps : Nat) → Session → Task → Session × Task
  | 0, s, t => (s, t)
  | steps + 1, s, t =>
    match s.give Task.want Task.step t with
    | none => (s, t)
    | some (s, t) => runFor steps s t

/-- Runs a task to its end. -/
def run (s : Session) (task : Task) : Session × Task :=
  runFor task.left s task

def updateConfig (s : Session) (config : TelegramConfig) : Session :=
  (s.run (.update config)).1

def sendTest (s : Session) (message : String) : Session × Outcome :=
  match s.run (.trial (.begun message)) with
  | (s, .trial (.finished outcome)) => (s, outcome)
  | (s, _) => (s, .ok ())

def notify (s : Session) (update : FilterUpdate) : Session :=
  (s.run (.notice (.begun update))).1

/-! ### The loop -/

def isRunning (s : Session) : Bool :=
  s.supervisor.isRunning

def isChecking (s : Session) : Bool :=
  match s.supervisor.current with
  | some ⟨_, _, .checking _⟩ => true
  | _ => false

/-- How long it takes until what is waited for is there. -/
def delay : Want → Span
  | .answer call => Peer.delay call
  | _ => ⟨0⟩

def stay : Loop → Span
  | .sleeping interval => interval
  | .checking c => delay c.want
  | .reading | .exited => ⟨0⟩

/-- The registered loop has come this far. After a check it reads the interval and sleeps, or ends
when it sees a signal. -/
def settle (s : Session) (worker : Worker) : Session :=
  let worker := (worker.rest s.shared).heed
  { s with
    supervisor := s.supervisor.modifyCurrent fun _ => worker
    turnAt := s.now.after (stay worker.loop) }

/-- The clock goes on to a time, unless it is past it. -/
def waitUntil (s : Session) (time : Instant) : Session :=
  { s with now := if s.now ≤ time then time else s.now }

/-- The loop has its turn: it wakes and begins a check, or its check makes a step. -/
def turn (s : Session) : Session :=
  match s.supervisor.current with
  | none => s
  | some worker =>
    match (s.waitUntil s.turnAt).give Worker.want Worker.step worker.wake with
    | none => s
    | some (s, worker) => s.settle worker

/-- Lets time pass up to `target`, with at most so many turns. -/
def advanceTo (target : Instant) : (turns : Nat) → Session → Session
  | 0, s => s.waitUntil target
  | turns + 1, s =>
    if s.isRunning && decide (s.turnAt ≤ target) then advanceTo target turns s.turn
    else s.waitUntil target

/-- Lets time pass. Each check takes some of it, so the turns are enough. -/
def advance (s : Session) (d : Span) : Session :=
  advanceTo (s.now.after d) ((d.nanos + 1) * Check.begun.left) s

def endCheckFor : (turns : Nat) → Session → Session
  | 0, s => s
  | turns + 1, s => if s.isChecking then endCheckFor turns s.turn else s

/-- The check of the loop, if there is one, comes to its end. -/
def endCheck (s : Session) : Session :=
  endCheckFor Check.begun.left s

def startLoop (s : Session) : Session :=
  match s.supervisor.registered with
  | some _ => s
  | none => { s with supervisor := s.supervisor.start s.shutDown }.settle (.started s.shutDown)

/-- Tells the registered loop to stop and waits for its end. -/
def stopLoop (s : Session) : Session :=
  let s := s.endCheck
  let stopping := s.supervisor.beginStop
  let heeded :=
    match stopping.joining with
    | some i => stopping.modify i Worker.heed
    | none => stopping
  { s with supervisor := heeded.endStop }

/-- The program shuts down, and the registered loop ends. -/
def shutDownAll (s : Session) : Session :=
  let s := s.endCheck
  let signalled :=
    match s.supervisor.registered with
    | some i => (s.supervisor.signal i).modify i Worker.heed
    | none => s.supervisor
  { s with shutDown := true, supervisor := signalled }

/-- Loops that begin from now on see no shutdown. -/
def renewShutdown (s : Session) : Session :=
  { s with shutDown := false }

/-- The loop begins its next check and collects a snapshot. -/
def nextCheck (s : Session) : Session :=
  s.endCheck.turn.turn

/-- Waits until the loop has begun two more checks; whether they came. -/
def awaitTwoChecks (s : Session) : Session × Bool :=
  (s.nextCheck.nextCheck, s.isRunning && s.shared.config.isDeliverable)

/-- A check makes at most so many steps. While it waits, the loop has its turns. -/
def checkFor : (steps : Nat) → Session → Check → Session
  | 0, s, _ => s
  | steps + 1, s, c =>
    match (s.advance (delay c.want)).give Check.want Check.step c with
    | none => s
    | some (s, c) => checkFor steps s c

def runCheck (s : Session) : Session :=
  checkFor Check.begun.left s .begun

/-! ### What is reported -/

/-- The calls seen and whether a snapshot was collected, both since they were last reported. -/
def report (s : Session) : Session × List Http.Call × Bool :=
  ({ s with peer := { s.peer with seen := [] }, collected := false }.advance reportTime,
    s.peer.seen, s.collected)

end Session

end HostAlert.Rehearsal
