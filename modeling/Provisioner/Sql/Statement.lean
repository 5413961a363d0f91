import Provisioner.Failure
import Provisioner.Sql.Identifier

/-!
The statements sent to the SQL server.

`render?` writes the text for the server and refuses a name that would need quotes. `masked` and
`outline` are for people, and keep the password to themselves.
-/

namespace Provisioner.Sql

inductive Statement where
  | createUser (username password : String)
  | createDatabase (database owner : String)
  | dropDatabase (database : String)
  | dropRole (username : String)
  deriving Repr, DecidableEq

/-- A quote inside a literal is written twice. -/
def escapeChars (cs : List Char) : List Char :=
  cs.flatMap fun c => if c = '\'' then ['\'', '\''] else [c]

def escapeLiteral (s : String) : String := String.ofList (escapeChars s.toList)

def identifier? (name : String) : Except Failure String :=
  if isIdentifier name then .ok name else .error (.invalidIdentifier name)

namespace Statement

/-- The text for the server. The names are looked at in the order in which they stand. -/
def render? : Statement → Except Failure String
  | .createUser username password => do
    let username ← identifier? username
    return "CREATE USER " ++ username ++ " WITH PASSWORD '" ++ escapeLiteral password ++ "'"
  | .createDatabase database owner => do
    let database ← identifier? database
    let owner ← identifier? owner
    return "CREATE DATABASE " ++ database ++ " OWNER " ++ owner
  | .dropDatabase database => do
    let database ← identifier? database
    return "DROP DATABASE " ++ database
  | .dropRole username => do
    let username ← identifier? username
    return "DROP ROLE " ++ username

/-- What the statement does, in a status or a report. -/
def action : Statement → String
  | .createUser .. => "creating user"
  | .createDatabase .. => "creating database"
  | .dropDatabase .. => "dropping database"
  | .dropRole .. => "dropping role"

/-- The name of what the statement creates or drops. -/
def subject : Statement → String
  | .createUser username _ => username
  | .createDatabase database _ => database
  | .dropDatabase database => database
  | .dropRole username => username

/-- The statement for a reader, the password masked. -/
def masked : Statement → String
  | .createUser username _ => "CREATE USER " ++ username ++ " WITH PASSWORD '***'"
  | .createDatabase database owner => "CREATE DATABASE " ++ database ++ " OWNER " ++ owner
  | .dropDatabase database => "DROP DATABASE " ++ database
  | .dropRole username => "DROP ROLE " ++ username

def outlineOf (name : String) (fields : List (String × String)) : String :=
  let members := fields.map fun f => f.1 ++ ": " ++ Text.quoted f.2
  name ++ " \x7b " ++ ", ".intercalate members ++ " \x7d"

/-- The statement by its fields, the password left out. -/
def outline : Statement → String
  | .createUser username _ =>
    outlineOf "CreateUser" [("username", username), ("password", "<redacted>")]
  | .createDatabase database owner =>
    outlineOf "CreateDatabase" [("database", database), ("owner", owner)]
  | .dropDatabase database => outlineOf "DropDatabase" [("database", database)]
  | .dropRole username => outlineOf "DropRole" [("username", username)]

end Statement

end Provisioner.Sql
