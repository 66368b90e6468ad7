/-!
# Host snapshots

A `Snapshot` is what was read from the host at one point in time. A zero or empty field means that
the value could not be read.
-/

namespace HostAlert

/-- The readings of the host at one point in time. Amounts of memory and disk are in bytes. -/
structure Snapshot where
  os : String
  osVersion : String
  arch : String
  hostname : String
  numCpu : UInt64
  cpuModel : String
  cpuUsage : Float
  memoryTotal : UInt64
  memoryUsed : UInt64
  memoryUsage : Float
  memoryFree : UInt64
  diskPath : String
  diskTotal : UInt64
  diskUsed : UInt64
  diskUsage : Float
  diskFree : UInt64
  localIps : List String
  publicIp : String
  uptimeSeconds : UInt64

def Snapshot.empty : Snapshot :=
  ⟨"", "", "", "", 0, "", 0, 0, 0, 0, 0, "", 0, 0, 0, 0, [], "", 0⟩

end HostAlert
