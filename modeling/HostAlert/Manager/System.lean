import HostAlert.Manager.Notice
import HostAlert.Manager.Trial

/-!
# Tasks side by side

A `Task` is anything that may go on at a manager. A `System` is the shared state with the tasks in
progress; it moves by one step of one task, or by a task that begins. `Reach` are the systems that a
manager with given settings can come to, in any order of these moves and with any snapshots, clock
readings and answers.
-/

namespace HostAlert.Manager

/-- Something that goes on at a manager. -/
inductive Task
  | check (c : Check)
  | notice (n : Notice)
  | trial (t : Trial)
  /-- The settings are to be replaced. -/
  | update (config : TelegramConfig)
  /-- The settings were replaced. -/
  | updated

namespace Task

/-- One step of a task; none when the event is not what it waits for. -/
def step (base : String) (shared : Shared) : Task → Event → Option (Shared × Task)
  | check c, e => (c.step base shared e).map fun (shared, c) => (shared, check c)
  | notice n, e => (n.step base shared e).map fun (shared, n) => (shared, notice n)
  | trial t, e => (t.step base shared e).map fun (shared, t) => (shared, trial t)
  | update config, .enter _ _ => some (shared.replaceConfig config, updated)
  | _, _ => none

def want : Task → Want
  | check c => c.want
  | notice n => n.want
  | trial t => t.want
  | update _ => .entry
  | updated => .nothing

def left : Task → Nat
  | check c => c.left
  | notice n => n.left
  | trial t => t.left
  | update _ => 1
  | updated => 0

/-- Whether the task has not moved yet. -/
def isFresh : Task → Bool
  | check .begun | notice (.begun _) | trial (.begun _) | update _ => true
  | _ => false

end Task

/-- The shared state and the tasks in progress. -/
structure System where
  shared : Shared
  tasks : List Task

namespace System

def initial (config : TelegramConfig) : System :=
  ⟨.initial config, []⟩

inductive Move (base : String) : System → System → Prop
  /-- A task begins. -/
  | begins (s : System) (t : Task) (fresh : t.isFresh) : Move base s ⟨s.shared, s.tasks ++ [t]⟩
  /-- A task makes a step. -/
  | steps (s : System) (i : Nat) (t t' : Task) (e : Event) (shared : Shared)
      (here : s.tasks[i]? = some t) (moved : t.step base s.shared e = some (shared, t')) :
      Move base s ⟨shared, s.tasks.set i t'⟩

/-- The systems that a manager with these settings can come to. -/
inductive Reach (base : String) (config : TelegramConfig) : System → Prop
  | initial : Reach base config (.initial config)
  | move {s s' : System} : Reach base config s → Move base s s' → Reach base config s'

end System

end HostAlert.Manager
