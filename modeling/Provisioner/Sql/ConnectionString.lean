import Provisioner.Decimal.Numeral
import Provisioner.Failure
import Provisioner.Net.Address
import Provisioner.Text.Blank

/-!
How to reach the SQL server, written as an address or as a list of settings.

Both forms come down to settings, each of which is a name and a value. A text is refused at the
first setting that is unknown or has a value that it cannot have.
-/

namespace Provisioner.Sql

namespace Setting

def choices : List (String × List String) :=
  [("sslmode", ["disable", "prefer", "require"]),
   ("sslnegotiation", ["postgres", "direct"]),
   ("target_session_attrs", ["any", "read-write", "read-only"]),
   ("channel_binding", ["disable", "prefer", "require"]),
   ("load_balance_hosts", ["disable", "random"])]

def texts : List String := ["user", "password", "dbname", "options", "application_name", "host"]

def signedNumbers : List String :=
  ["connect_timeout", "tcp_user_timeout", "keepalives_idle", "keepalives_interval"]

def isNat (limit : Nat) (s : String) : Bool := (Decimal.readNat limit s).isOk

/-- An empty port stands for the usual one. -/
def isPort (s : String) : Bool := s == "" || isNat (UInt16.size - 1) s

/-- Whether there is a setting of that name that can have that value. -/
def isValid (name value : String) : Bool :=
  match choices.lookup name with
  | some values => values.contains value
  | none =>
    if texts.contains name then true
    else if signedNumbers.contains name then (Decimal.readInt64 value).isOk
    else if name = "keepalives" then isNat (UInt64.size - 1) value
    else if name = "keepalives_retries" then isNat (UInt32.size - 1) value
    else if name = "port" then (value.splitOn ",").all isPort
    else if name = "hostaddr" then (value.splitOn ",").all Net.isAddress
    else false

end Setting

/-- What a connection string says about the database; all else is only checked. -/
structure Target where
  database : Option String := none
  deriving Repr, DecidableEq

namespace Target

def set? (t : Target) (name value : String) : Option Target :=
  if !Setting.isValid name value then none
  else if name = "dbname" then some { t with database := some value }
  else some t

/-! ### Settings in a row -/

/-- Characters up to `stop`, or to the end; a backslash takes away the meaning of the next. -/
def unescaped (stop : Char → Bool) : List Char → List Char × List Char
  | [] => ([], [])
  | '\\' :: cs =>
    if stop '\\' then ([], '\\' :: cs)
    else match cs with
      | [] => ([], [])
      | c :: cs =>
        let (v, rest) := unescaped stop cs
        (c :: v, rest)
  | c :: cs =>
    if stop c then ([], c :: cs)
    else
      let (v, rest) := unescaped stop cs
      (c :: v, rest)

/-- A value in quotes may be empty, one without them may not. -/
def value? : List Char → Option (String × List Char)
  | '\'' :: cs =>
    match unescaped (· == '\'') cs with
    | (v, '\'' :: rest) => some (String.ofList v, rest)
    | _ => none
  | cs =>
    let (v, rest) := unescaped Text.isSpace cs
    if v.isEmpty then none else some (String.ofList v, rest)

def skipSpace (cs : List Char) : List Char := cs.dropWhile Text.isSpace

def isKeywordChar (c : Char) : Bool := !(Text.isSpace c || c == '=')

/-- Settings `name = value` until no name follows. The text bounds their number. -/
def ofSettings (t : Target) : Nat → List Char → Option Target
  | 0, _ => some t
  | fuel + 1, cs =>
    let cs := skipSpace cs
    let name := cs.takeWhile isKeywordChar
    if name.isEmpty then some t
    else match skipSpace (cs.dropWhile isKeywordChar) with
      | '=' :: cs =>
        match value? (skipSpace cs) with
        | some (value, rest) =>
          (t.set? (String.ofList name) value).bind fun t => ofSettings t fuel rest
        | none => none
      | _ => none

/-! ### Addresses -/

/-- The text before the first of the given characters, if one of them is there. -/
def before? (stops : List Char) (cs : List Char) : Option (List Char × List Char) :=
  let head := cs.takeWhile (!stops.contains ·)
  if head.length = cs.length then none else some (head, cs.drop head.length)

/-- User and password stand before an at sign. -/
def credentials (cs : List Char) : Option (List Char) :=
  match before? ['@'] cs with
  | none => some cs
  | some (names, rest) =>
    (Net.percentDecode? (names.takeWhile (· != ':'))).map fun _ => rest.drop 1

/-- The path of a socket may hold any bytes, the name of a host must be text. -/
def isHost (cs : List Char) : Bool :=
  (Net.percentBytes cs).head? == some '/'.val.toUInt8 || (Net.percentDecode? cs).isSome

/-- A host with its port, which stands after a colon. -/
def splitHost? (cs : List Char) : Option (List Char × Option (List Char)) :=
  match cs with
  | '[' :: cs =>
    match before? [']'] cs with
    | some (host, [_]) => some (host, none)
    | some (host, _ :: ':' :: port) => some (host, some port)
    | _ => none
  | _ =>
    match before? [':'] cs with
    | some (host, port) => some (host, some (port.drop 1))
    | none => some (cs, none)

def isEndpoint (cs : List Char) : Bool :=
  match splitHost? cs with
  | some (host, port) =>
    isHost host &&
      match port with
      | none => true
      | some port => ((Net.percentDecode? port).map (Setting.isValid "port")).getD false
  | none => false

/-- Parts between commas. -/
def chunks (cs : List Char) : List (List Char) :=
  ((String.ofList cs).splitOn ",").map String.toList

def hosts (cs : List Char) : Option (List Char) :=
  let (here, rest) := (before? ['/', '?'] cs).getD (cs, [])
  if here.isEmpty || (chunks here).all isEndpoint then some rest else none

def database? (t : Target) (cs : List Char) : Option (Target × List Char) :=
  match cs with
  | '/' :: cs =>
    let (name, rest) := (before? ['?'] cs).getD (cs, [])
    if name.isEmpty then some (t, rest)
    else (Net.percentDecode? name).map fun d => ({ t with database := some d }, rest)
  | cs => some (t, cs)

/-- Settings `name=value` after the question mark. The text bounds their number. -/
def ofParameters (t : Target) : Nat → List Char → Option Target
  | 0, _ => some t
  | _, [] => some t
  | fuel + 1, cs => do
    let (name, rest) ← before? ['='] cs
    let name ← Net.percentDecode? name
    let (value, rest) := (before? ['&'] (rest.drop 1)).getD (rest.drop 1, [])
    let t ← if name = "host" then (if isHost value then some t else none)
      else (Net.percentDecode? value).bind (t.set? name)
    ofParameters t fuel (rest.drop 1)

def ofAddress (cs : List Char) : Option Target := do
  let cs ← credentials cs
  let cs ← hosts cs
  let (t, cs) ← database? {} cs
  match cs with
  | '?' :: cs => ofParameters t cs.length cs
  | _ => return t

def schemes : List String := ["postgres://", "postgresql://"]

def parse? (s : String) : Option Target :=
  match schemes.find? (·.toList.isPrefixOf s.toList) with
  | some scheme => ofAddress (s.toList.drop scheme.length)
  | none => ofSettings {} s.length s.toList

end Target

/-- Why there is no pool of connections. -/
inductive ConnectionFault where
  | malformed
  | noDatabase
  | emptyDatabase
  /-- No memory could hold so many connections. -/
  | poolTooLarge
  deriving Repr, DecidableEq

namespace ConnectionFault

def message : ConnectionFault → String
  | .malformed => "configuration property \"url\" is invalid: invalid connection string"
  | .noDatabase => "configuration property \"dbname\" not found"
  | .emptyDatabase => "configuration property \"dbname\" contains an empty string"
  | .poolTooLarge => "capacity overflow"

def failure (f : ConnectionFault) : Failure :=
  .connection ("failed to create pool: Config: " ++ f.message)

end ConnectionFault

/-- From this size on a pool has no place in memory. -/
def poolLimit : Nat := UInt64.size / 512

/-- A connection string must be well-formed and name a database, before the size of the pool is
looked at. -/
def checkConnection (s : String) (size : Nat) : Except ConnectionFault Target :=
  match Target.parse? s with
  | none => .error .malformed
  | some t =>
    match t.database with
    | none => .error .noDatabase
    | some d =>
      if d = "" then .error .emptyDatabase
      else if poolLimit ≤ size then .error .poolTooLarge
      else .ok t

end Provisioner.Sql
