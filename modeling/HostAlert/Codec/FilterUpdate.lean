import HostAlert.FilterUpdate
import HostAlert.Json.Record
import HostAlert.Json.Value

/-!
# Documents of filter updates

The JSON form of a filter update. Every member may be missing, and a kind of list that is not known
is read as unknown.
-/

namespace HostAlert

namespace ListKind

open Json

def read : Reader ListKind :=
  variant fun name => some (ofName name)

end ListKind

namespace FilterUpdate

open Json

def members : List (Member FilterUpdate) :=
  [ .of "id" .kept uint64 fun u v => { u with id := v },
    .of "name" .kept string fun u v => { u with name := v },
    .of "url" .kept string fun u v => { u with url := v },
    .of "rules_count" .kept int64 fun u v => { u with rulesCount := v },
    .of "bytes_written" .kept int64 fun u v => { u with bytesWritten := v },
    .of "enabled" .kept bool fun u v => { u with enabled := v },
    .of "list_type" .kept ListKind.read fun u v => { u with kind := v } ]

def read : Reader FilterUpdate :=
  record members empty

def toValue (u : FilterUpdate) : Value :=
  .object
    [ ("id", .whole u.id.toNat),
      ("name", .text u.name),
      ("url", .text u.url),
      ("rules_count", .whole u.rulesCount.toInt),
      ("bytes_written", .whole u.bytesWritten.toInt),
      ("enabled", .bool u.enabled),
      ("list_type", .text u.kind.name) ]

end FilterUpdate

end HostAlert
