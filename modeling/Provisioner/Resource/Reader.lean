import Provisioner.Json.Record
import Provisioner.Resource.Decode

/-!
Reading resources from JSON text.

What is accepted here is accepted by `Decode` as well, but a text tells more than the value that it
stands for: where something is wrong, and what was given twice.
-/

namespace Provisioner.Reader

def textField (name : String) (presence : Presence := .required) : Field where
  name := name
  read := return .string (← anyText)
  presence := presence

/-- A field that may be null or absent. -/
def nullable (name : String) (item : Reader Json) : Field where
  name := name
  read := optional item
  presence := .optional

def nullableText (name : String) : Field := nullable name (return .string (← anyText))

def nullableMoment (name : String) : Field := nullable name (return .string (← moment))

def specRecord : Record where
  expected := "struct DatabaseSpec"
  fields := [textField "username", textField "password", textField "database"]

def statusRecord (setAside : Bool) : Record where
  expected := "struct DatabaseStatus"
  fields :=
    [{ name := "state", read := return .string (← keyword setAside), presence := .defaulted },
     textField "message" .defaulted]

def ownerRecord : Record where
  expected := "OwnerReference"
  fields :=
    ["apiVersion", "kind", "name", "uid"].map nullableText ++
    ["blockOwnerDeletion", "controller"].map (nullable · (return .bool (← flag)))

/-- The fields that somebody has written, of any form; four brackets are open around them. -/
def managerRecord : Record where
  expected := "ManagedFieldsEntry"
  fields :=
    ["apiVersion", "fieldsType", "manager", "operation", "subresource"].map nullableText ++
    [nullable "fieldsV1" (value (Json.maxDepth - 4)), nullableMoment "time"]

def metadataRecord : Record where
  expected := "ObjectMeta"
  fields :=
    let anyString : Reader Json := return .string (← anyText)
    let entry (r : Record) : Reader Json := return .object (← r.readOpen)
    ["generateName", "name", "namespace", "resourceVersion", "selfLink", "uid"].map
      nullableText ++
    ["deletionGracePeriodSeconds", "generation"].map (nullable · (return .integer (← int64))) ++
    ["creationTimestamp", "deletionTimestamp"].map nullableMoment ++
    ["annotations", "labels"].map (nullable · (map anyString)) ++
    [nullable "finalizers" (list anyString), nullable "managedFields" (list (entry managerRecord)),
     nullable "ownerReferences" (list (entry ownerRecord))]

def metadata : Reader Json := return .object (← metadataRecord.readOpen)

def resourceRecord (setAside : Bool) : Record where
  expected := "struct Database"
  fields :=
    [{ name := "metadata", read := metadata },
     { name := "spec", read := return .object (← specRecord.read) },
     { name := "status", read := optional (return .object (← (statusRecord setAside).read)),
       presence := .optional }]

/-- A resource; `setAside` if its text was put aside before it was clear what it is. -/
def resource (setAside : Bool) : Reader Resource := do
  match Decode.resource (.object (← (resourceRecord setAside).read)) with
  | .ok r => return r
  | .error m => mismatch m

end Provisioner.Reader
