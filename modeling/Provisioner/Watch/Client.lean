import Provisioner.Api.Address
import Provisioner.Watch.Basic
import Provisioner.Watch.Line

/-!
The client's side of list and watch: which requests it makes, and which events come of the answers.

The client lists, page by page, and then watches from where the list ended. A list that fails, a
watch that has fallen behind and a resource without a version make it list anew. Where the scope
makes no address, no request is ever made.
-/

namespace Provisioner

inductive Phase where
  | listing
  /-- The watch is asked for; `opened` once something came over it. -/
  | watching (opened : Bool)
  deriving Repr, DecidableEq

/-- What the API server does. -/
inductive Move where
  /-- A page of a list. -/
  | page (version : String) (items : List Json) (more : Bool)
  | listFails
  /-- Lines of the watch. -/
  | text (s : String)
  /-- The connection of the watch ends. -/
  | hangUp
  | watchFails

structure Client where
  scope : Option String := none
  phase : Phase := .listing
  /-- The task has begun its first list. -/
  watch : Watch := (({} : Watch).deliver .listBegins).2

namespace Client

def path (c : Client) : String := Path.resources c.scope

def resources? (js : List Json) : Option (List Resource) := (js.mapM Decode.resource).toOption

/-- The events of a page, and the phase after it. -/
def turnPage (version : String) (items : List Json) (more : Bool) : List Event × Phase :=
  match resources? items with
  | none => ([.listBegins], .listing)
  | some rs =>
    if more then (rs.map .listed, .listing)
    else if version = "" then ([.listBegins], .listing)
    else (rs.map .listed ++ [.listEnds], .watching false)

def hasVersion (r : Resource) : Bool := r.metadata.resourceVersion.getD "" != ""

/-- The events of a line about a resource; without a version the place in the watch is lost. -/
def follow (event : Resource → Event) (r : Resource) : List Event × Phase :=
  if hasVersion r then ([event r], .watching true) else ([.listBegins], .listing)

/-- The code with which the server says that the watch has fallen behind. -/
def goneCode : Nat := 410

/-- A line that cannot be read says nothing. -/
def readLine (s : String) : List Event × Phase :=
  match Reader.watchLine.run s with
  | .ok (.changed r) => follow .changed r
  | .ok (.removed r) => follow .removed r
  | .ok (.refused why) =>
    if why.code = goneCode then ([.listBegins], .listing) else ([], .watching true)
  | .ok .bookmark | .error _ => ([], .watching true)

/-- Lines are read as long as the client watches. -/
def readLines : List String → List Event × Phase
  | [] => ([], .watching true)
  | s :: rest =>
    match readLine s with
    | (es, .listing) => (es, .listing)
    | (es, .watching _) =>
      let (later, phase) := readLines rest
      (es ++ later, phase)

/-- The events that come of a move, and the phase after it; nothing if it does not fit the phase. -/
def respond? (phase : Phase) (m : Move) : Option (List Event × Phase) :=
  match phase, m with
  | .listing, .page version items more => some (turnPage version items more)
  | .listing, .listFails => some ([.listBegins], .listing)
  | .watching _, .text s => some (readLines (s.splitOn "\n"))
  | .watching _, .hangUp => some ([], .watching false)
  | .watching false, .watchFails => some ([], .watching false)
  | _, _ => none

/-- The scope makes an address, so that requests can be made. -/
def hasAddress (c : Client) : Bool := Address.isValid c.path && !Address.isTooLong c.path

/-- A move of the server with the notifications that it leads to. -/
def move? (c : Client) (m : Move) : Option (List Notification × Client) :=
  if c.watch.stopped || !c.hasAddress then none
  else (respond? c.phase m).map fun (es, phase) =>
    let (ns, watch) := c.watch.deliverAll es
    (ns, { c with phase, watch })

/-- Nobody receives notifications any more. -/
def dropReceiver (c : Client) : Client := { c with watch := { c.watch with receiving := false } }

/-- The task is killed. -/
def abort (c : Client) : Client := { c with watch := { c.watch with stopped := true } }

end Client

end Provisioner
