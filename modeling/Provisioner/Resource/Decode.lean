import Provisioner.Decimal.Numeral
import Provisioner.Json.Mismatch
import Provisioner.Resource.Basic

/-!
Reading resources from JSON.

A structure is read from an object, whose unknown members are passed over, or from an array of its
fields in order. Members are looked at in the order of their names, and only after that is a
missing one reported.
-/

namespace Provisioner.Decode

abbrev Result (α : Type) := Except Mismatch α

def string : Json → Result String
  | .string s => .ok s
  | j => .error (.wrongType j "a string")

def int64 : Json → Result Int
  | .integer n =>
    if n ≤ Decimal.maxInt64 then .ok n else .error (.wrongValue (Json.integer n).kind "i64")
  | j => .error (.wrongType j "i64")

def list {α : Type} (item : Json → Result α) : Json → Result (List α)
  | .array js => js.mapM item
  | j => .error (.wrongType j "a sequence")

def map {α : Type} (item : Json → Result α) : Json → Result (List (String × α))
  | .object ms => ms.mapM fun m => (item m.2).map (m.1, ·)
  | j => .error (.wrongType j "a map")

/-- Nothing for null. -/
def optional {α : Type} (item : Json → Result α) : Json → Result (Option α)
  | .null => .ok none
  | j => (item j).map some

/-- The member of that name, if it is there. -/
def member {α : Type} (item : Json → Result α) (ms : Json.Members) (name : String) :
    Result (Option α) :=
  match ms.get? name with
  | some j => (item j).map some
  | none => .ok none

/-- A member for which null is as good as absence. -/
def nullable {α : Type} (item : Json → Result α) (ms : Json.Members) (name : String) :
    Result (Option α) :=
  (member (optional item) ms name).map Option.join

def present {α : Type} (field : String) : Option α → Result α
  | some a => .ok a
  | none => .error (.missing field)

/-- The element at that place of a structure written as an array. -/
def element {α : Type} (item : Json → Result α) (js : List Json) (i : Nat) (expected : String) :
    Result α :=
  match js[i]? with
  | some j => item j
  | none => .error (.wrongLength i expected)

def atMost (n : Nat) (js : List Json) : Result Unit :=
  if js.length ≤ n then .ok () else .error (.wrongLength js.length "fewer elements in array")

/-! ### The parts of a resource -/

def unit : Json → Result Unit
  | .null => .ok ()
  | j => .error (.wrongType j "unit")

/-- A word, or an object whose only member has the word as its name and nothing as its value. -/
def progress : Json → Result Progress
  | .string s => .ok (.ofText s)
  | .object [(s, j)] => (unit j).map fun () => .ofText s
  | .object _ => .error (.wrongValue "map" "map with a single key")
  | j => .error (.wrongType j "string or map")

def status : Json → Result Status
  | .object ms => do
    let message ← member string ms "message"
    let progress ← member progress ms "state"
    return ⟨progress.getD .unprovisioned, message.getD ""⟩
  | .array js => do
    let progress ← (js[0]?.map progress).getD (.ok .unprovisioned)
    let message ← (js[1]?.map string).getD (.ok "")
    atMost 2 js
    return ⟨progress, message⟩
  | j => .error (.wrongType j "struct DatabaseStatus")

def spec : Json → Result Spec
  | .object ms => do
    let database ← member string ms "database"
    let password ← member string ms "password"
    let username ← member string ms "username"
    let username ← present "username" username
    let password ← present "password" password
    let database ← present "database" database
    return ⟨username, password, database⟩
  | .array js => do
    let expected := "struct DatabaseSpec with 3 elements"
    let username ← element string js 0 expected
    let password ← element string js 1 expected
    let database ← element string js 2 expected
    atMost 3 js
    return ⟨username, password, database⟩
  | j => .error (.wrongType j "struct DatabaseSpec")

def metadata : Json → Result Metadata
  | .object ms => do
    let annotations ← nullable (map string) ms "annotations"
    let finalizers ← nullable (list string) ms "finalizers"
    let generateName ← nullable string ms "generateName"
    let generation ← nullable int64 ms "generation"
    let labels ← nullable (map string) ms "labels"
    let name ← nullable string ms "name"
    let scope ← nullable string ms "namespace"
    let resourceVersion ← nullable string ms "resourceVersion"
    let uid ← nullable string ms "uid"
    return { name, scope, generateName, resourceVersion, uid, generation, labels, annotations,
             finalizers }
  | j => .error (.wrongType j "ObjectMeta")

def resource : Json → Result Resource
  | .object ms => do
    let metadata ← member metadata ms "metadata"
    let spec ← member spec ms "spec"
    let status ← nullable status ms "status"
    let metadata ← present "metadata" metadata
    let spec ← present "spec" spec
    return ⟨metadata, spec, status⟩
  | .array js => do
    let expected := "struct Database with 3 elements"
    let metadata ← element metadata js 0 expected
    let spec ← element spec js 1 expected
    let status ← element (optional status) js 2 expected
    atMost 3 js
    return ⟨metadata, spec, status⟩
  | j => .error (.wrongType j "struct Database")

end Provisioner.Decode
