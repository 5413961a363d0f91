import Provisioner.Failure
import Provisioner.Resource.Reader

/-!
Replies of the API server, and what becomes of a request that was answered so.

With a code from 400 to 599 the body says why the request was refused; a body that does not is
quoted as a whole. With any other code the body is what was stored.
-/

namespace Provisioner.Reader

/-- The status and the code must be there. -/
def refusalRecord : Record where
  expected := "struct ErrorResponse"
  fields :=
    [textField "status", textField "message" .defaulted, textField "reason" .defaulted,
     { name := "code", read := return .integer (← nat16) }]

def refusal : Reader Refusal := do
  let found ← refusalRecord.read
  let textOf (name : String) : String := ((found.get? name).bind Json.text?).getD ""
  let code := match found.get? "code" with
    | some (.integer n) => n.toNat
    | _ => 0
  return { status := textOf "status", message := textOf "message", reason := textOf "reason", code }

end Provisioner.Reader

namespace Provisioner.Api

inductive Reply where
  /-- The request is granted, and its body comes back. -/
  | granted
  | body (code : Nat) (text : String)

namespace Reply

def isError (code : Nat) : Bool := 400 ≤ code && code < 600

/-- The usual words for a code. -/
def phrases : List (Nat × String) :=
  [(400, "Bad Request"), (401, "Unauthorized"), (402, "Payment Required"), (403, "Forbidden"),
   (404, "Not Found"), (405, "Method Not Allowed"), (406, "Not Acceptable"),
   (407, "Proxy Authentication Required"), (408, "Request Timeout"), (409, "Conflict"),
   (410, "Gone"), (411, "Length Required"), (412, "Precondition Failed"),
   (413, "Payload Too Large"), (414, "URI Too Long"), (415, "Unsupported Media Type"),
   (416, "Range Not Satisfiable"), (417, "Expectation Failed"), (418, "I'm a teapot"),
   (421, "Misdirected Request"), (422, "Unprocessable Entity"), (423, "Locked"),
   (424, "Failed Dependency"), (425, "Too Early"), (426, "Upgrade Required"),
   (428, "Precondition Required"), (429, "Too Many Requests"),
   (431, "Request Header Fields Too Large"), (451, "Unavailable For Legal Reasons"),
   (500, "Internal Server Error"), (501, "Not Implemented"), (502, "Bad Gateway"),
   (503, "Service Unavailable"), (504, "Gateway Timeout"), (505, "HTTP Version Not Supported"),
   (506, "Variant Also Negotiates"), (507, "Insufficient Storage"), (508, "Loop Detected"),
   (510, "Not Extended"), (511, "Network Authentication Required")]

def statusLine (code : Nat) : String :=
  toString code ++ " " ++ (phrases.lookup code).getD "<unknown status code>"

/-- What stands in for a body that is no refusal. -/
def unparsed (code : Nat) (text : String) : Refusal where
  status := statusLine code
  message := Text.quoted text
  reason := "Failed to parse error data"
  code := code

def refusal (code : Nat) (text : String) : Refusal :=
  match Reader.refusal.run text with
  | .ok r => r
  | .error _ => unparsed code text

/-- Why a request was refused, if it was. -/
def refusal? : Reply → Option Refusal
  | .granted => none
  | .body code text => if isError code then some (refusal code text) else none

/-- What came of a request that is answered with what was stored. -/
def outcome {α : Type} (stored : Reader α) (r : Reply) : Except ApiFailure Unit :=
  match r.refusal?, r with
  | some why, _ => .error (.refused why)
  | none, .granted => .ok ()
  | none, .body _ text => ((stored.run text).map fun _ => ()).mapError (.unreadable ·.message)

end Reply

end Provisioner.Api
