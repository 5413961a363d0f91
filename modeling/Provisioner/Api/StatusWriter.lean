import Provisioner.Api.Request

/-!
Writing a resource back: the whole object replaces what the API server has.

The version of the resource goes along, so that a change made meanwhile is answered with a conflict
and is not overwritten.
-/

namespace Provisioner.Api.StatusWriter

/-- The name in the address is checked first, then the address. -/
def request (r : Resource) : Except Failure Request :=
  match r.metadata.scope with
  | none => .error (.internal "Database missing metadata.namespace")
  | some scope =>
    if r.displayName = "" then .error (.api .emptyName)
    else (Request.make "PUT" (Path.resource scope r.displayName) (Encode.resource r)).mapError .api

def update (r : Resource) (l : Line) : Except Failure Unit × Line :=
  match request r with
  | .error f => (.error f, l)
  | .ok q =>
    let (reply, l) := l.send q
    ((reply.outcome (Reader.resource false)).mapError .api, l)

end Provisioner.Api.StatusWriter
