import HostAlert.Json.Record
import HostAlert.Json.Value
import HostAlert.Metric

/-!
# Documents of snapshots

The JSON form of a snapshot; every member is required. A metric is written by its name.
-/

namespace HostAlert

namespace Snapshot

open Json

def members : List (Member Snapshot) :=
  [ .of "os" .refused string fun i v => { i with os := v },
    .of "os_version" .refused string fun i v => { i with osVersion := v },
    .of "arch" .refused string fun i v => { i with arch := v },
    .of "hostname" .refused string fun i v => { i with hostname := v },
    .of "num_cpu" .refused uint64 fun i v => { i with numCpu := v },
    .of "cpu_model" .refused string fun i v => { i with cpuModel := v },
    .of "cpu_usage" .refused double fun i v => { i with cpuUsage := v },
    .of "memory_total" .refused uint64 fun i v => { i with memoryTotal := v },
    .of "memory_used" .refused uint64 fun i v => { i with memoryUsed := v },
    .of "memory_usage" .refused double fun i v => { i with memoryUsage := v },
    .of "memory_free" .refused uint64 fun i v => { i with memoryFree := v },
    .of "disk_path" .refused string fun i v => { i with diskPath := v },
    .of "disk_total" .refused uint64 fun i v => { i with diskTotal := v },
    .of "disk_used" .refused uint64 fun i v => { i with diskUsed := v },
    .of "disk_usage" .refused double fun i v => { i with diskUsage := v },
    .of "disk_free" .refused uint64 fun i v => { i with diskFree := v },
    .of "local_ips" .refused (Json.list string) fun i v => { i with localIps := v },
    .of "public_ip" .refused string fun i v => { i with publicIp := v },
    .of "uptime_seconds" .refused uint64 fun i v => { i with uptimeSeconds := v } ]

def read : Reader Snapshot :=
  record members empty

def toValue (i : Snapshot) : Value :=
  let amount (n : UInt64) : Value := .whole n.toNat
  .object
    [ ("os", .text i.os),
      ("os_version", .text i.osVersion),
      ("arch", .text i.arch),
      ("hostname", .text i.hostname),
      ("num_cpu", amount i.numCpu),
      ("cpu_model", .text i.cpuModel),
      ("cpu_usage", .double i.cpuUsage),
      ("memory_total", amount i.memoryTotal),
      ("memory_used", amount i.memoryUsed),
      ("memory_usage", .double i.memoryUsage),
      ("memory_free", amount i.memoryFree),
      ("disk_path", .text i.diskPath),
      ("disk_total", amount i.diskTotal),
      ("disk_used", amount i.diskUsed),
      ("disk_usage", .double i.diskUsage),
      ("disk_free", amount i.diskFree),
      ("local_ips", .list (i.localIps.map .text)),
      ("public_ip", .text i.publicIp),
      ("uptime_seconds", amount i.uptimeSeconds) ]

end Snapshot

namespace Metric

open Json

def read : Reader Metric :=
  variant ofName?

def toValue (m : Metric) : Value :=
  .text m.name

end Metric

end HostAlert
