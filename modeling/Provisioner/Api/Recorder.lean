import Provisioner.Api.Event
import Provisioner.Api.Request
import Provisioner.Reconcile.Notice
import Provisioner.Table

/-!
Publishing events about resources.

An event that repeats an earlier one about the same resource is written as a series: the first of
them, with the number of times it was seen. What could not be published is forgotten.
-/

namespace Provisioner.Api

/-- The resource that an event is about, whatever its version. -/
structure Regarding where
  name : Option String
  scope : Option String
  uid : Option String
  deriving Repr, DecidableEq

def Regarding.of (r : Resource) : Regarding where
  name := r.metadata.name
  scope := r.metadata.scope
  uid := r.metadata.uid

/-- An event as it is published. -/
structure Publication where
  severity : Severity
  regarding : Regarding
  note : String
  /-- How often it was seen, from the second time on. -/
  count : Option Nat := none
  deriving Repr, DecidableEq

structure Recorder where
  published : Table (Severity × Regarding) Publication := {}

namespace Recorder

/-- The scope of events about resources without one. -/
def defaultScope : String := "default"

def prepare (t : Recorder) (r : Resource) (n : Notice) : Publication :=
  match t.published.find? (n.severity, Regarding.of r) with
  | some p => { p with count := some (p.count.getD 1 + 1) }
  | none => { severity := n.severity, regarding := Regarding.of r, note := n.message }

/-- The name of an event ends in a number, which is the same for every event of a series. -/
def eventName (p : Publication) : String := p.regarding.name.getD Notice.reporter ++ ".0"

/-- The path up to the events. -/
def withoutName (path : String) : String :=
  match path.splitOn "/events/" with
  | events :: _ :: _ => events ++ "/events"
  | _ => path

def address (p : Publication) : String :=
  let events := Path.events (p.regarding.scope.getD defaultScope)
  if p.count.isSome then events ++ "/" ++ eventName p else events

def body (p : Publication) : Json :=
  let text := fun s : String => some (Json.string s)
  Json.compact
    [("action", text Notice.action),
     ("metadata", some (Json.compact [("namespace", p.regarding.scope.map .string)])),
     ("note", text p.note),
     ("reason", text Notice.reason),
     ("regarding", some (Json.compact
       [("apiVersion", text apiVersion),
        ("kind", text resourceKind),
        ("name", p.regarding.name.map .string),
        ("namespace", p.regarding.scope.map .string),
        ("uid", p.regarding.uid.map .string)])),
     ("reportingController", text Notice.reporter),
     ("series", p.count.map fun n => .object [("count", .integer n)]),
     ("type", text p.severity.text)]

def request (p : Publication) : Except ApiFailure Request :=
  Request.make (if p.count.isSome then "PATCH" else "POST") (address p) (body p)

/-- A failure to publish concerns nobody. What is not confirmed counts as not published. -/
def publish (t : Recorder) (r : Resource) (n : Notice) (l : Line) : Recorder × Line :=
  let p := t.prepare r n
  match request p with
  | .error _ => (t, l)
  | .ok q =>
    let (reply, l) := l.send q
    match reply.outcome Reader.event with
    | .error _ => (t, l)
    | .ok () => ({ published := t.published.insert (p.severity, p.regarding) p }, l)

end Recorder

end Provisioner.Api
