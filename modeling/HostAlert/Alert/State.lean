import HostAlert.Metric
import HostAlert.Time.Instant

/-!
# Alert states

Per metric, whether an alert is active and when the last one was delivered. Clearing drops the
active flag only: the time of the last delivery stays, so that a metric that swings around its
threshold still honours the cooldown.
-/

namespace HostAlert

structure AlertState where
  active : Bool
  lastAlert : Option Instant
  deriving DecidableEq

namespace AlertState

def never : AlertState := ⟨false, none⟩

/-- The time since the last delivered alert; one in the future counts as just delivered. -/
def since (s : AlertState) (now : Instant) : Option Span :=
  s.lastAlert.map fun last => last.elapsed now

end AlertState

structure AlertStates where
  cpu : AlertState
  memory : AlertState
  disk : AlertState
  deriving DecidableEq

namespace AlertStates

def initial : AlertStates := ⟨.never, .never, .never⟩

def get (s : AlertStates) : Metric → AlertState
  | .cpu => s.cpu
  | .memory => s.memory
  | .disk => s.disk

def modify (s : AlertStates) (m : Metric) (f : AlertState → AlertState) : AlertStates :=
  match m with
  | .cpu => { s with cpu := f s.cpu }
  | .memory => { s with memory := f s.memory }
  | .disk => { s with disk := f s.disk }

/-- An alert of the metric, attempted at `time`, was delivered. -/
def markActive (s : AlertStates) (m : Metric) (time : Instant) : AlertStates :=
  s.modify m fun _ => ⟨true, some time⟩

def clear (s : AlertStates) (m : Metric) : AlertStates :=
  s.modify m fun a => { a with active := false }

def clearAll (s : AlertStates) : AlertStates :=
  ⟨{ s.cpu with active := false }, { s.memory with active := false },
    { s.disk with active := false }⟩

@[simp] theorem get_initial (m : Metric) : initial.get m = .never := by
  cases m <;> rfl

theorem get_modify (s : AlertStates) (m n : Metric) (f : AlertState → AlertState) :
    (s.modify m f).get n = if m = n then f (s.get n) else s.get n := by
  cases m <;> cases n <;> rfl

theorem get_markActive (s : AlertStates) (m n : Metric) (time : Instant) :
    (s.markActive m time).get n = if m = n then ⟨true, some time⟩ else s.get n :=
  get_modify s m n _

theorem get_clear (s : AlertStates) (m n : Metric) :
    (s.clear m).get n = if m = n then { s.get n with active := false } else s.get n :=
  get_modify s m n _

@[simp] theorem get_clearAll (s : AlertStates) (m : Metric) :
    s.clearAll.get m = { s.get m with active := false } := by
  cases m <;> rfl

end AlertStates

end HostAlert
