import Provisioner.Sql.Statement

/-!
Running a list of statements to its end, whatever fails on the way.

There is no transaction around the list: a failure neither stops nor undoes the other statements.
The report keeps the failures in order.
-/

namespace Provisioner.Sql

/-- A statement that failed. -/
structure Casualty where
  statement : Statement
  failure : Failure
  deriving Repr, DecidableEq

def Casualty.message (c : Casualty) : String :=
  "error " ++ c.statement.action ++ ": " ++ c.failure.message

structure Report where
  casualties : List Casualty := []
  deriving Repr, DecidableEq

namespace Report

def isSuccess (r : Report) : Bool := r.casualties.isEmpty

/-- The failures on one line, for a status. -/
def message (r : Report) : String := "; ".intercalate (r.casualties.map Casualty.message)

def firstFailure? (r : Report) : Option Failure := r.casualties.head?.map (·.failure)

/-- The report after one more statement. -/
def record (r : Report) (s : Statement) : Except Failure Unit → Report
  | .ok () => r
  | .error f => ⟨r.casualties ++ [⟨s, f⟩]⟩

end Report

/-- Statements on their way: one that is being executed, those to come, and what failed before. -/
structure Batch where
  current : Statement
  rest : List Statement := []
  report : Report := {}
  deriving Repr, DecidableEq

namespace Batch

/-- The report with the outcome of the current statement. -/
def reportWith (b : Batch) (outcome : Except Failure Unit) : Report :=
  b.report.record b.current outcome

/-- The batch after the outcome of its current statement, if a statement is left. -/
def advance? (b : Batch) (outcome : Except Failure Unit) : Option Batch :=
  match b.rest with
  | [] => none
  | t :: ts => some ⟨t, ts, b.reportWith outcome⟩

end Batch

/-- Every statement in turn, each from the state that the one before it left. -/
def runAll {σ : Type} (execute : Statement → σ → Except Failure Unit × σ) :
    List Statement → Report → σ → Report × σ
  | [], r, s => (r, s)
  | t :: ts, r, s =>
    let (outcome, s) := execute t s
    runAll execute ts (r.record t outcome) s

end Provisioner.Sql
