import Provisioner.Json.Basic
import Provisioner.Resource.Basic

/-!
Writing resources as JSON, every object with its members in the order of their names.
-/

namespace Provisioner

/-- The group and version under which the resource is declared. -/
def apiGroup : String := "postgresql.org"

def apiVersion : String := apiGroup ++ "/v1"

def resourceKind : String := "Database"

namespace Encode

def map (ms : List (String × String)) : Json := .object (ms.map fun m => (m.1, .string m.2))

def metadata (m : Metadata) : Json :=
  Json.compact
    [("annotations", m.annotations.map map),
     ("finalizers", m.finalizers.map fun fs => .array (fs.map .string)),
     ("generateName", m.generateName.map .string),
     ("generation", m.generation.map .integer),
     ("labels", m.labels.map map),
     ("name", m.name.map .string),
     ("namespace", m.scope.map .string),
     ("resourceVersion", m.resourceVersion.map .string),
     ("uid", m.uid.map .string)]

def spec (s : Spec) : Json :=
  .object [("database", .string s.database), ("password", .string s.password),
    ("username", .string s.username)]

def progress (p : Progress) : Json := .string p.text

def status (s : Status) : Json :=
  .object [("message", .string s.message), ("state", progress s.progress)]

def resource (r : Resource) : Json :=
  Json.compact
    [("apiVersion", some (.string apiVersion)),
     ("kind", some (.string resourceKind)),
     ("metadata", some (metadata r.metadata)),
     ("spec", some (spec r.spec)),
     ("status", r.status.map status)]

end Encode

end Provisioner
