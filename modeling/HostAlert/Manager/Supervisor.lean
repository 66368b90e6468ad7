import HostAlert.Manager.Loop

/-!
# Starting and stopping loops

A `Supervisor` holds every worker that was ever started, of which at most one is registered. A
worker is started only while none is registered. Stopping takes the registered worker out, tells it
to stop and keeps all other calls waiting until it has ended; `Supervisor.joining` is the worker
waited for. `Supervisor.Move` is one move of a supervisor, `Supervisor.Reach` what can come of them.
-/

namespace HostAlert.Manager

structure Supervisor where
  /-- Every worker that was started, by its number. -/
  workers : List Worker
  /-- The number of the registered worker. -/
  registered : Option Nat
  /-- The number of the worker that a call to stop waits for. -/
  joining : Option Nat

namespace Supervisor

def initial : Supervisor := ⟨[], none, none⟩

def modify (s : Supervisor) (i : Nat) (f : Worker → Worker) : Supervisor :=
  { s with workers := s.workers.modify i f }

/-- Registers a new worker, unless one is registered. -/
def start (s : Supervisor) (shutDown : Bool) : Supervisor :=
  match s.registered with
  | some _ => s
  | none =>
    { s with
      workers := s.workers ++ [.started shutDown]
      registered := some s.workers.length }

/-- Takes the registered worker out and tells it to stop. -/
def beginStop (s : Supervisor) : Supervisor :=
  match s.registered with
  | none => s
  | some i =>
    { s.modify i fun w => { w with stopping := true } with registered := none, joining := some i }

/-- The worker waited for, if it has ended, is waited for no longer. -/
def endStop (s : Supervisor) : Supervisor :=
  match s.joining with
  | none => s
  | some i =>
    match s.workers[i]? with
    | some w => if w.loop.isExited then { s with joining := none } else s
    | none => s

/-- A worker sees that the program shuts down, or that nobody is left to say so. -/
def signal (s : Supervisor) (i : Nat) : Supervisor :=
  s.modify i fun w => { w with shutDown := true }

/-- The registered worker. -/
def current (s : Supervisor) : Option Worker :=
  s.registered.bind fun i => s.workers[i]?

def modifyCurrent (s : Supervisor) (f : Worker → Worker) : Supervisor :=
  match s.registered with
  | none => s
  | some i => s.modify i f

/-- Whether a worker is registered whose loop has not ended. -/
def isRunning (s : Supervisor) : Bool :=
  match s.current with
  | some w => !w.loop.isExited
  | none => false

inductive WorkerStep (base : String) : Worker → Worker → Prop
  | rests (w : Worker) (shared : Shared) : WorkerStep base w (w.rest shared)
  | heeds (w : Worker) : WorkerStep base w w.heed
  | wakes (w : Worker) : WorkerStep base w w.wake
  | checks (w w' : Worker) (shared shared' : Shared) (e : Event)
      (moved : w.step base shared e = some (shared', w')) : WorkerStep base w w'

/-- One move of a supervisor. Calls to start and to stop begin only while no call waits. -/
inductive Move (base : String) : Supervisor → Supervisor → Prop
  | starts (s : Supervisor) (shutDown : Bool) (free : s.joining = none) :
      Move base s (s.start shutDown)
  | beginsStop (s : Supervisor) (free : s.joining = none) : Move base s s.beginStop
  | endsStop (s : Supervisor) : Move base s s.endStop
  | signals (s : Supervisor) (i : Nat) : Move base s (s.signal i)
  | steps (s : Supervisor) (i : Nat) (w w' : Worker) (here : s.workers[i]? = some w)
      (moved : WorkerStep base w w') : Move base s { s with workers := s.workers.set i w' }

/-- The supervisors that a manager can come to. -/
inductive Reach (base : String) : Supervisor → Prop
  | initial : Reach base .initial
  | move {s s' : Supervisor} : Reach base s → Move base s s' → Reach base s'

end Supervisor

end HostAlert.Manager
