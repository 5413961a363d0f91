import Provisioner.Resource.Encode

/-!
Addresses of requests: where the API server keeps things, which characters an address may hold, and
where its path ends.

A question mark begins the query and a hash the fragment, about which nobody is told. Text beyond
ASCII may stand in an address as it is.
-/

namespace Provisioner.Path

def plural : String := "databases"

/-- The resources of all scopes, or of one. -/
def resources (scope : Option String) : String :=
  "/apis/" ++ apiVersion ++ "/" ++
    (match scope with
      | some s => "namespaces/" ++ s ++ "/"
      | none => "") ++ plural

def resource (scope name : String) : String := resources (some scope) ++ "/" ++ name

def events (scope : String) : String := "/apis/events.k8s.io/v1/namespaces/" ++ scope ++ "/events"

end Provisioner.Path

namespace Provisioner.Address

/-- Neither a blank nor a control character, and not one of those that must be escaped. -/
def isPathChar (c : Char) : Bool :=
  '!' ≤ c && !(c == '<' || c == '>' || c == '\x60' || c == '#' || c == '?' || c == '\x7f')

/-- A query may hold a question mark and a backtick, but no quotation mark. -/
def isQueryChar (c : Char) : Bool :=
  '!' ≤ c && !(c == '<' || c == '>' || c == '"' || c == '#' || c == '\x7f')

/-- The path, up to a query or a fragment. -/
def path (cs : List Char) : List Char := cs.takeWhile fun c => c != '?' && c != '#'

def isValid (s : String) : Bool :=
  let cs := s.toList.takeWhile (· != '#')
  let query := cs.dropWhile (· != '?')
  (cs.takeWhile (· != '?')).all isPathChar && (query.drop 1).all isQueryChar

/-- So many bytes an address may have, with the question mark that is put behind it. -/
def maxBytes : Nat := UInt16.size - 2

def isTooLong (s : String) : Bool := maxBytes < s.utf8ByteSize + 1

def pathOf (s : String) : String := String.ofList (path s.toList)

end Provisioner.Address
