import HostAlert.Address.Selection
import HostAlert.Snapshot
import HostAlert.Text.Blank

/-!
# Readings of the host

A `HostReading` is what the system says of the host: its processors, memory, mounted disks and
network interfaces. `HostReading.snapshot` picks and computes from it what a snapshot shows.
-/

namespace HostAlert

structure Interface where
  /-- The state of the link; none when the system does not say. -/
  state : Option String
  addresses : List Address.Ip

/-- A mounted disk with its sizes in bytes. -/
structure Mount where
  point : String
  total : UInt64
  free : UInt64

/-- What the system says of the host. Amounts of memory are in bytes. -/
structure HostReading where
  os : String
  osName : Option String
  osRelease : Option String
  arch : String
  hostname : Option String
  /-- The brands of the processors. -/
  processors : List String
  cpuUsage : Float
  memoryTotal : UInt64
  memoryUsed : UInt64
  memoryAvailable : UInt64
  memoryFree : UInt64
  mounts : List Mount
  interfaces : List Interface
  uptimeSeconds : UInt64

namespace HostReading

/-- The part in percent of the total; nothing is in use where there is no total. -/
def percentage (used total : UInt64) : Float :=
  if total = 0 then 0 else used.toFloat / total.toFloat * 100

/-- The name of the processors by the brand of the first one, which may be blank. -/
def cpuModel : Option String → String
  | none => ""
  | some brand =>
    let model := Text.trimmed brand
    if model.isEmpty then "CPU 0" else model

/-- The parts of the version that are not blank, with a space between them. -/
def versionText (parts : List (Option String)) : String :=
  String.intercalate " "
    (((parts.filterMap id).map Text.trimmed).filter fun part => !part.isEmpty)

/-- Whether a link in this state may carry traffic; only three states say that it does not. -/
def isUpState (state : String) : Bool :=
  !(["down", "lowerlayerdown", "notpresent"].contains (Text.trimmed state))

/-- Whether the interface may carry traffic; one of unknown state counts as up. -/
def isUp (i : Interface) : Bool :=
  (i.state.map isUpState).getD true

/-- Where the disk that is watched is mounted. -/
def rootPath : String := "/"

/-- The disk that is watched, if it is mounted. -/
def rootMount (r : HostReading) : Option Mount :=
  r.mounts.find? fun m => m.point == rootPath

/-- The bytes in use on a disk. -/
def inUse (m : Mount) : UInt64 :=
  if m.free ≤ m.total then m.total - m.free else 0

def withMount (info : Snapshot) (m : Mount) : Snapshot :=
  { info with
    diskTotal := m.total
    diskUsed := inUse m
    diskFree := m.free
    diskUsage := percentage (inUse m) m.total }

def snapshot (r : HostReading) (publicIp : String) : Snapshot :=
  let info : Snapshot :=
    { Snapshot.empty with
      os := r.os
      osVersion := versionText [r.osName, r.osRelease]
      arch := r.arch
      hostname := r.hostname.getD ""
      numCpu := r.processors.length.toUInt64
      cpuModel := cpuModel r.processors.head?
      cpuUsage := r.cpuUsage
      memoryTotal := r.memoryTotal
      memoryUsed := r.memoryUsed
      memoryUsage := percentage r.memoryUsed r.memoryTotal
      memoryFree := if r.memoryAvailable = 0 then r.memoryFree else r.memoryAvailable
      diskPath := rootPath
      localIps := Address.select ((r.interfaces.filter isUp).flatMap Interface.addresses)
      publicIp := publicIp
      uptimeSeconds := r.uptimeSeconds }
  (r.rootMount.map (withMount info)).getD info

end HostReading

end HostAlert
