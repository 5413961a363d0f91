import Provisioner.Sql.BestEffort
import Provisioner.Table

/-!
A SQL server that knows its roles and its databases with their owners.

Creating fails for a name that is taken or an owner that is not there, dropping for a name that is
not there; otherwise the name is entered or struck out.
-/

namespace Provisioner.Sql

structure Server where
  roles : List String := []
  databases : Table String String := {}
  deriving Repr, DecidableEq

namespace Server

def hasRole (s : Server) (r : String) : Bool := s.roles.contains r

def hasDatabase (s : Server) (d : String) : Bool := s.databases.contains d

def missingRole (r : String) : Failure := .sql ("role \"" ++ r ++ "\" does not exist")

def takenRole (r : String) : Failure := .sql ("role \"" ++ r ++ "\" already exists")

def missingDatabase (d : String) : Failure := .sql ("database \"" ++ d ++ "\" does not exist")

def takenDatabase (d : String) : Failure := .sql ("database \"" ++ d ++ "\" already exists")

/-- One statement; a failing one leaves the server as it was. -/
def run (s : Server) : Statement → Except Failure Unit × Server
  | .createUser r _ =>
    if s.hasRole r then (.error (takenRole r), s)
    else (.ok (), { s with roles := s.roles ++ [r] })
  | .createDatabase d o =>
    if !s.hasRole o then (.error (missingRole o), s)
    else if s.hasDatabase d then (.error (takenDatabase d), s)
    else (.ok (), { s with databases := s.databases.insert d o })
  | .dropDatabase d =>
    if s.hasDatabase d then (.ok (), { s with databases := s.databases.erase d })
    else (.error (missingDatabase d), s)
  | .dropRole r =>
    if s.hasRole r then (.ok (), { s with roles := s.roles.filter (· != r) })
    else (.error (missingRole r), s)

end Server

end Provisioner.Sql
