import HostAlert.Manager.Check

/-!
# The check loop

A `Loop` reads the interval, sleeps for it and runs a check, over and over, until it sees while
sleeping that it was told to stop or that the program shuts down. A `Worker` is a loop with the two
signals that end it; neither is ever taken back.
-/

namespace HostAlert.Manager

/-- Where a loop stands. -/
inductive Loop
  /-- The interval is to be read. -/
  | reading
  | sleeping (interval : Span)
  | checking (c : Check)
  | exited

namespace Loop

def isExited : Loop → Bool
  | exited => true
  | _ => false

end Loop

/-- A loop and the signals that end it. -/
structure Worker where
  /-- The loop was told to stop. -/
  stopping : Bool
  /-- The program shuts down, or nobody is left to say so. -/
  shutDown : Bool
  loop : Loop

namespace Worker

def started (shutDown : Bool) : Worker :=
  ⟨false, shutDown, .reading⟩

/-- Whether the loop was asked to end. -/
def isSignalled (w : Worker) : Bool :=
  w.stopping || w.shutDown

/-- The loop reads the interval and goes to sleep. -/
def rest (w : Worker) (shared : Shared) : Worker :=
  match w.loop with
  | .reading => { w with loop := .sleeping shared.config.checkInterval }
  | _ => w

/-- A sleeping loop sees a signal and ends. -/
def heed (w : Worker) : Worker :=
  match w.loop with
  | .sleeping _ => if w.isSignalled then { w with loop := .exited } else w
  | _ => w

/-- A sleeping loop wakes and begins a check. -/
def wake (w : Worker) : Worker :=
  match w.loop with
  | .sleeping _ => { w with loop := .checking .begun }
  | _ => w

/-- What the check of the loop waits for. -/
def want (w : Worker) : Want :=
  match w.loop with
  | .checking c => c.want
  | _ => .nothing

/-- The check of the loop makes a step; after its last one the interval is read again. -/
def step (base : String) (shared : Shared) (w : Worker) (e : Event) : Option (Shared × Worker) :=
  match w.loop with
  | .checking c =>
    (c.step base shared e).map fun (shared, c) =>
      (shared, { w with loop := if c.want = .nothing then .reading else .checking c })
  | _ => none

end Worker

end HostAlert.Manager
