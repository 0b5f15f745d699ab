import Courier.Hosts.HostMap
import Courier.Json.Reader
import Courier.Settings.Field

/-!
# Host maps from the server

The server writes a host map as a JSON object that gives for each path a list of texts.
Of several lists for one path the last counts, but all of them have to be lists of
texts.
-/

namespace Courier.HostMap

/-- The host map that a body holds. There is none if the body is no such object or the
path `*` has no host. -/
def read? (body : Bytes) : Option HostMap :=
  match Json.readMembers? body >>= List.mapM fun m => (Json.texts? m.2).map fun l => (m.1, l) with
  | none => none
  | some paths =>
    match ofPaths (Table.ofList paths) with
    | .ok m => some m
    | .error _ => none

end Courier.HostMap
