import HostAlert.Snapshot

/-!
# Metrics

The resources whose usage is compared with a threshold, and where a snapshot holds their readings.
-/

namespace HostAlert

inductive Metric
  | cpu
  | memory
  | disk
  deriving DecidableEq

namespace Metric

/-- All metrics, in the order in which a check treats them. -/
def all : List Metric := [cpu, memory, disk]

theorem mem_all (m : Metric) : m ∈ all := by
  cases m <;> decide

theorem forall_iff {p : Metric → Prop} : (∀ m, p m) ↔ p cpu ∧ p memory ∧ p disk := by
  refine ⟨fun h => ⟨h cpu, h memory, h disk⟩, fun ⟨hcpu, hmemory, hdisk⟩ m => ?_⟩
  cases m with
  | cpu => exact hcpu
  | memory => exact hmemory
  | disk => exact hdisk

/-- The name in documents and error texts. -/
def name : Metric → String
  | cpu => "cpu"
  | memory => "memory"
  | disk => "disk"

def displayName : Metric → String
  | cpu => "CPU usage"
  | memory => "Memory usage"
  | disk => "Disk usage"

def ofName? (s : String) : Option Metric :=
  all.find? fun m => m.name == s

theorem ofName?_name (m : Metric) : ofName? m.name = some m := by
  cases m <;> decide

/-- The usage of the metric in a snapshot, in percent. -/
def reading (m : Metric) (info : Snapshot) : Float :=
  match m with
  | cpu => info.cpuUsage
  | memory => info.memoryUsage
  | disk => info.diskUsage

end Metric

end HostAlert
