import Provisioner.CommandLine.Environment
import Provisioner.CommandLine.Parameter

/-!
The description of the command line for a terminal, with the present values of the environment.
-/

namespace Provisioner.CommandLine

def programName : String := "pgdb-operator"

def versionText : String := programName ++ " 0.1.0\n"

def purpose : String := "Kubernetes operator that provisions PostgreSQL roles and databases"

def annotation (label value : String) : String := " [" ++ label ++ ": " ++ value ++ "]"

/-- An empty default is written as two quotation marks. -/
def defaultText (s : String) : String := if s = "" then "\"\"" else s

/-- The lines of a text after the first one move to the right. -/
def indent (s : String) : String := s.replace "\n" "\n          "

/-- The names of a parameter stand out. -/
def names (p : Parameter) : String :=
  let letter := match p.letter? with
    | some c => "  " ++ Terminal.styled .strong (String.ofList ['-', c]) ++ ", "
    | none => "      "
  letter ++ Terminal.styled .strong ("--" ++ p.name) ++ p.placeholderText

def describe (env : Environment) (p : Parameter) : List String :=
  let inherited := match p.inherited? with
    | some v => annotation "env" (v ++ "=" ++ indent ((env.lookup v).getD ""))
    | none => ""
  let usual := match p.usual? with
    | some d => annotation "default" (defaultText d)
    | none => ""
  [names p, "          " ++ p.summary ++ inherited ++ usual]

def usageLine : String :=
  Terminal.styled .heading "Usage:" ++ " " ++ Terminal.styled .strong programName ++ " [OPTIONS]"

def helpText (env : Environment) : String :=
  String.join (([purpose, "", usageLine, "", Terminal.styled .heading "Options:"] ++
    parameters.flatMap (describe env)).map (· ++ "\n"))

end Provisioner.CommandLine
