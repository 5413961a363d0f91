import Provisioner.Json.Pointer
import Provisioner.Json.Yaml
import Provisioner.Resource.Encode

/-!
The manifest that declares the resource to the API server.

The status is written with the rest of the object, so the manifest declares no separate endpoint
for it: with one, the server would drop the status from such a write.
-/

namespace Provisioner.Manifest

def column (name type path : String) : Json :=
  .object [("jsonPath", .string path), ("name", .string name), ("type", .string type)]

def columns : Json :=
  .array
    [column "Database" "string" ".spec.database",
     column "Owner" "string" ".spec.username",
     column "State" "string" ".status.state",
     column "Age" "date" ".metadata.creationTimestamp"]

def text (description : String) (more : Json.Members) : Json :=
  .object (more.foldl (fun (ms : Json.Members) m => ms.put m.1 m.2)
    [("description", .string description), ("type", .string "string")])

def specSchema : Json :=
  .object
    [("description", .string ("Database is a request for a PostgreSQL role and a database owned " ++
        "by it\n\nExample: ```yaml apiVersion: postgresql.org/v1 kind: Database metadata: name: app1 " ++
        "namespace: default spec: username: app1_owner password: s3cret database: app1_db ```")),
     ("properties", .object
       [("database", text "Name of the database to create" []),
        ("password", text "Password for the role" [("minLength", .integer 1)]),
        ("username", text "Role that is created and made owner of the database" [])]),
     ("required", .array [.string "database", .string "password", .string "username"]),
     ("type", .string "object")]

def statusSchema : Json :=
  .object
    [("description", .string "Status of the Database resource"),
     ("nullable", .bool true),
     ("properties", .object
       [("message", text "Human-readable outcome of the last attempt" [("default", .string "")]),
        ("state", text "unprovisioned, provisioned or error"
          [("default", Encode.progress .unprovisioned),
           ("enum", .array ([.provisioned, .error, .unprovisioned].map Encode.progress))])]),
     ("type", .string "object")]

def schema : Json :=
  .object
    [("description", .string "Auto-generated derived type for DatabaseSpec via `CustomResource`"),
     ("properties", .object [("spec", specSchema), ("status", statusSchema)]),
     ("required", .array [.string "spec"]),
     ("title", .string resourceKind),
     ("type", .string "object")]

def version : Json :=
  .object
    [("additionalPrinterColumns", columns),
     ("name", .string "v1"),
     ("schema", .object [("openAPIV3Schema", schema)]),
     ("served", .bool true),
     ("storage", .bool true)]

def names : Json :=
  .object
    [("categories", .array []),
     ("kind", .string resourceKind),
     ("plural", .string "databases"),
     ("shortNames", .array [.string "pgdb"]),
     ("singular", .string "database")]

def definition : Json :=
  .object
    [("apiVersion", .string "apiextensions.k8s.io/v1"),
     ("kind", .string "CustomResourceDefinition"),
     ("metadata", .object [("name", .string ("databases." ++ apiGroup))]),
     ("spec", .object
       [("group", .string apiGroup),
        ("names", names),
        ("scope", .string "Namespaced"),
        ("versions", .array [version])])]

end Provisioner.Manifest
