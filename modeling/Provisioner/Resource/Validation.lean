import Provisioner.Resource.Basic
import Provisioner.Sql.Identifier

/-!
What a spec must satisfy before a statement is made of it.

Each field that fails gives one line, and the lines stand in the order of the fields' names.
-/

namespace Provisioner.Spec

def identifierFault (field value : String) : List String :=
  if Sql.isIdentifier value then []
  else [field ++ ": '" ++ value ++ "' must start with a letter or underscore, contain only " ++
    "letters, digits and underscores, and be at most " ++ toString Sql.maxIdentifierBytes ++
    " bytes"]

def passwordFault (value : String) : List String :=
  if value = "" then ["password: password must not be empty"] else []

def faults (s : Spec) : List String :=
  identifierFault "database" s.database ++ passwordFault s.password ++
    identifierFault "username" s.username

/-- The faults of a spec on one line, or nothing to say. -/
def validate (s : Spec) : Except String Unit :=
  if s.faults.isEmpty then .ok () else .error ("; ".intercalate s.faults)

end Provisioner.Spec
