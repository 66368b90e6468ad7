import HostAlert.Config
import HostAlert.FilterUpdate
import HostAlert.Message.Amount
import HostAlert.Text.Blank

/-!
# Messages

A message is a list of lines. `alertLines` and `filterUpdateLines` are the lines of the two kinds
of messages; both end with the overview of the host. `render` joins lines with line feeds.
-/

namespace HostAlert.Message

/-- The lines as one text. -/
def render (lines : List String) : String :=
  String.intercalate "\n" lines

/-- The custom message as first line, unless it is blank. -/
def opening (customMessage : String) : List String :=
  let text := Text.trimmed customMessage
  if text.isEmpty then [] else [text]

def lineIf (wanted : Bool) (line : String) : List String :=
  if wanted then [line] else []

/-- The trimmed text, or `substitute` when nothing is left of it. -/
def orElse (text substitute : String) : String :=
  let trimmed := Text.trimmed text
  if trimmed.isEmpty then substitute else trimmed

/-- The system version, else the name of the system, with the architecture. -/
def osText (info : Snapshot) : String :=
  let os := orElse info.osVersion (orElse info.os "-")
  let arch := Text.trimmed info.arch
  if arch.isEmpty then os else os ++ " (" ++ arch ++ ")"

def cpuText (info : Snapshot) : String :=
  let model := orElse info.cpuModel "Unknown CPU"
  if info.numCpu = 0 then model
  else model ++ " (" ++ Text.groupedNat info.numCpu.toNat ++ " cores)"

def localIpsText (ips : List String) : String :=
  if ips.isEmpty then "-" else String.intercalate ", " ips

def uptimeText (seconds : UInt64) : String :=
  if seconds = 0 then "-" else uptime seconds

/-- The state of the host, one line per reading. -/
def overviewLines (info : Snapshot) : List String :=
  [ "🖥️ System Overview",
    "🏷️ Hostname: " ++ orElse info.hostname "-",
    "💻 OS: " ++ osText info,
    "🧠 CPU: " ++ cpuText info,
    "🔥 CPU Usage: " ++ percentage info.cpuUsage,
    "🗃️ Memory Usage: " ++ usage info.memoryUsed info.memoryTotal info.memoryUsage,
    "📟 Memory Free: " ++ capacity info.memoryFree info.memoryTotal,
    "💽 Disk Usage: " ++ usage info.diskUsed info.diskTotal info.diskUsage,
    "📂 Disk Free: " ++ capacity info.diskFree info.diskTotal,
    "📁 Disk Path: " ++ orElse info.diskPath "-",
    "🌐 Local IPs: " ++ localIpsText info.localIps,
    "🛰️ Public IP: " ++ orElse info.publicIp "-",
    "⏱️ Uptime: " ++ uptimeText info.uptimeSeconds ]

/-- The first line of an alert that is its own. -/
def headline (m : Metric) : String :=
  "🚨 Alert: " ++ m.displayName ++ " exceeded threshold"

def alertLines (config : TelegramConfig) (m : Metric) (value threshold : Float) (info : Snapshot) :
    List String :=
  opening config.customMessage ++
    [ headline m,
      "",
      "📈 Metrics",
      "📍 Metric: " ++ m.displayName,
      "🔥 Current: " ++ percentage value,
      "🎯 Threshold: " ++ percentage threshold,
      "" ] ++
    overviewLines info

def alert (config : TelegramConfig) (m : Metric) (value threshold : Float) (info : Snapshot) :
    String :=
  render (alertLines config m value threshold info)

def updateHeader : ListKind → String
  | .allowlist => "✅ Allowlist Update"
  | .blocklist => "🚫 Blocklist Update"
  | .unknown => "🔄 Filter Update"

def kindLabel : ListKind → String
  | .allowlist => "Allowlist"
  | .blocklist => "Blocklist"
  | .unknown => "Filter"

def filterUpdateLines (config : TelegramConfig) (update : FilterUpdate) (info : Snapshot) :
    List String :=
  opening config.customMessage ++
    [ updateHeader update.kind,
      "📛 List: " ++ orElse update.name "-" ] ++
    lineIf (update.id != 0) ("🆔 ID: #" ++ Text.groupedNat update.id.toNat) ++
    [ "🗂️ Type: " ++ kindLabel update.kind ] ++
    lineIf (!update.url.isEmpty) ("🔗 Source: " ++ update.url) ++
    [ "📊 Rules: " ++ Text.groupedInt (max update.rulesCount.toInt 0) ++ " entries" ] ++
    lineIf (decide (0 < update.bytesWritten.toInt))
      ("📦 Size: " ++ bytes update.bytesWritten.toInt.toNat.toUInt64) ++
    [ "⚙️ Status: " ++ (if update.enabled then "Enabled" else "Disabled"),
      "" ] ++
    overviewLines info

def filterUpdate (config : TelegramConfig) (update : FilterUpdate) (info : Snapshot) : String :=
  render (filterUpdateLines config update info)

end HostAlert.Message
