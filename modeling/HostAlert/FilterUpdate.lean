/-!
# Filter updates

The event that one filter list has been refreshed.
-/

namespace HostAlert

/-- What a filter list does with the names on it. -/
inductive ListKind
  | blocklist
  | allowlist
  | unknown
  deriving DecidableEq

def ListKind.name : ListKind → String
  | blocklist => "blocklist"
  | allowlist => "allowlist"
  | unknown => "unknown"

/-- The kind of a name; every name that is not known stands for `unknown`. -/
def ListKind.ofName (s : String) : ListKind :=
  if s = "blocklist" then blocklist
  else if s = "allowlist" then allowlist
  else unknown

theorem ListKind.ofName_name (k : ListKind) : ofName k.name = k := by
  cases k <;> decide

structure FilterUpdate where
  id : UInt64
  name : String
  url : String
  rulesCount : Int64
  bytesWritten : Int64
  enabled : Bool
  kind : ListKind

def FilterUpdate.empty : FilterUpdate :=
  ⟨0, "", "", 0, 0, false, .unknown⟩

end HostAlert
