import Provisioner.Sql.Statement

/-!
A connection to the SQL server that is made when it is needed and kept while it lasts.

A server that refuses keeps the connection; one that hangs up loses it, and the next request
connects again. A name that cannot stand in a statement is refused before there is any contact. A
null character ends a text on its way to the server, so a text that holds one is not sent.
-/

namespace Provisioner.Sql

/-- What the server does with a connection attempt or a query. -/
inductive Response where
  | accepts
  | refuses (text : String)
  | hangsUp
  deriving Repr, DecidableEq

inductive Contact where
  | connect
  | query (text : String)
  deriving Repr, DecidableEq

structure Pool where
  connected : Bool := false
  /-- The server's responses to come; after the last of them it accepts. -/
  greetings : List Response := []
  responses : List Response := []

namespace Pool

def lostText : String := "connection closed"

def noConnection (cause : String) : Failure :=
  .connection ("Error occurred while creating a new object: " ++ cause)

/-- A connection, which may be there already. -/
def connect (p : Pool) : Except Failure Unit × List Contact × Pool :=
  if p.connected then (.ok (), [], p)
  else
    let rest := { p with greetings := p.greetings.tail }
    match p.greetings.headD .accepts with
    | .accepts => (.ok (), [.connect], { rest with connected := true })
    | .refuses _ => (.error (noConnection "db error"), [.connect], rest)
    | .hangsUp => (.error (noConnection lostText), [.connect], rest)

/-- The server's response to a query. -/
def ask (p : Pool) : Except Failure Unit × Pool :=
  let rest := { p with responses := p.responses.tail }
  match p.responses.headD .accepts with
  | .accepts => (.ok (), rest)
  | .refuses why => (.error (.sql why), rest)
  | .hangsUp => (.error (.sql lostText), { rest with connected := false })

/-- Whether a text can be sent. -/
def isSendable (text : String) : Bool := !text.toList.contains '\x00'

def unsendable : Failure := .sql "error encoding message to server"

/-- A query, with all that the server sees of it. -/
def query (p : Pool) (text : String) : Except Failure Unit × List Contact × Pool :=
  match p.connect with
  | (.error f, seen, p) => (.error f, seen, p)
  | (.ok (), seen, p) =>
    if isSendable text then
      let (r, p) := p.ask
      (r, seen ++ [.query text], p)
    else (.error unsendable, seen, p)

def execute (p : Pool) (t : Statement) : Except Failure Unit × List Contact × Pool :=
  match t.render? with
  | .error f => (.error f, [], p)
  | .ok text => p.query text

/-- A query that changes nothing. -/
def ping (p : Pool) : Except Failure Unit × List Contact × Pool := p.query "SELECT 1"

end Pool

end Provisioner.Sql
