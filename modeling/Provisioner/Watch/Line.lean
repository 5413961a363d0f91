import Provisioner.Api.Reply

/-!
The lines of a watch: each says what kind of event it is, and brings the object of the event.

The two may come in either order, or without names in an array. An object that comes first is put
aside, well-formed as it must be, and looked at once its kind is known.
-/

namespace Provisioner

inductive WatchLine where
  | changed (r : Resource)
  | removed (r : Resource)
  | refused (why : Refusal)
  /-- Only a mark of how far the watch has come. -/
  | bookmark

namespace WatchLine

inductive Tag where
  | changed
  | removed
  | refused
  | bookmark
  deriving Repr, DecidableEq

def Tag.ofText? : String → Option Tag
  | "ADDED" | "MODIFIED" => some .changed
  | "DELETED" => some .removed
  | "ERROR" => some .refused
  | "BOOKMARK" => some .bookmark
  | _ => none

end WatchLine

namespace Reader

open WatchLine

def tag (word : Reader String) : Reader Tag := located do
  let s ← word
  match Tag.ofText? s with
  | some t => return t
  | none => mismatch (.wrongValue (Json.string s).kind "a kind of event")

def lineObject (setAside : Bool) : Tag → Reader WatchLine
  | .changed => return .changed (← resource setAside)
  | .removed => return .removed (← resource setAside)
  | .refused => return .refused (← refusal)
  | .bookmark => do
    passValue
    return .bookmark

/-- The object begins where the cursor stood. -/
def lineObjectAt (start : Cursor) (t : Tag) : Reader WatchLine := do
  let here ← get
  set start
  let l ← lineObject true t
  set here
  return l

/-- What the members of a line have said so far. -/
structure LineSoFar where
  tag? : Option Tag := none
  /-- Where an object stands that came first. -/
  start? : Option Cursor := none
  line? : Option WatchLine := none

def lineMember (s : LineSoFar) (name : String) : Reader LineSoFar := do
  if name = "type" then
    if s.tag?.isSome then mismatch (.repeated name)
    colon
    let t ← tag (keyword false)
    match s.start? with
    | some start => return { s with tag? := some t, line? := some (← lineObjectAt start t) }
    | none => return { s with tag? := some t }
  else if name = "object" then
    if s.start?.isSome || s.line?.isSome then mismatch (.repeated name)
    colon
    match s.tag? with
    | some t => return { s with line? := some (← lineObject false t) }
    | none =>
      let start ← get
      let _ ← value (Json.maxDepth - 1)
      return { s with start? := some start }
  else
    colon
    passValue
    return s

def lineOfMembers : Reader WatchLine := do
  let s ← foldMembers lineMember {}
  match s.line? with
  | some l => return l
  | none => mismatch (.missing (if s.tag?.isSome then "object" else "type"))

def lineOfElements : Reader WatchLine := do
  let expected := "a kind of event and an object"
  if ← hasElement true then
    let t ← tag anyText
    if ← hasElement false then lineObject false t
    else mismatch (.wrongLength 1 expected)
  else mismatch (.wrongLength 0 expected)

def watchLine : Reader WatchLine := do
  match ← next? with
  | some '[' => bracketed lineOfElements endList
  | some '\x7b' => bracketed lineOfMembers endObject
  | _ => unexpected "a line of a watch"

end Reader

end Provisioner
