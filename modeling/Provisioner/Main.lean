import Provisioner.CommandLine.Basic

/-!
The program.
-/

namespace Provisioner

/-- The variables that the command line may look at, as far as they are set. -/
def environment : IO CommandLine.Environment :=
  (CommandLine.Environment.general ++
    CommandLine.parameters.filterMap (·.inherited?)).filterMapM fun name => do
      return (← IO.getEnv name).map (name, ·)

end Provisioner

def main (words : List String) : IO UInt32 := do
  let exit := Provisioner.CommandLine.run words (← Provisioner.environment)
  (← IO.getStdout).putStr exit.output
  (← IO.getStderr).putStr exit.errors
  return exit.code.toUInt32
