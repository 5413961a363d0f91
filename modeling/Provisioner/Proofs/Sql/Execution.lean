import Mathlib.Tactic.Common
import Provisioner.Sql.BestEffort

/-!
What running a list of statements hands to the executor, and what it reports.

The executor is arbitrary, and so is the state that it works on. A list of its calls tells what it was
handed, in which state, and what it made of both; the report is read off the calls that failed.
-/

namespace Provisioner.Sql

variable {σ : Type}

/-- A statement that was handed to the executor. -/
structure Call (σ : Type) where
  statement : Statement
  before : σ
  outcome : Except Failure Unit
  after : σ

namespace Call

def failure? (c : Call σ) : Option Failure :=
  match c.outcome with
  | .ok () => none
  | .error f => some f

def casualty? (c : Call σ) : Option Casualty := c.failure?.map (⟨c.statement, ·⟩)

/-- What is said about the call if it failed. -/
def complaint? (c : Call σ) : Option String :=
  c.failure?.map fun f => "error " ++ c.statement.action ++ ": " ++ f.message

lemma failure?_eq_none {c : Call σ} : c.failure? = none ↔ c.outcome = .ok () := by
  unfold failure?
  split <;> simp_all

lemma failure?_eq_some {c : Call σ} {f : Failure} : c.failure? = some f ↔ c.outcome = .error f := by
  unfold failure?
  split <;> simp_all

end Call

/-- The same executor, which adds each call to a list. -/
def recording (execute : Statement → σ → Except Failure Unit × σ) (t : Statement)
    (s : σ × List (Call σ)) : Except Failure Unit × σ × List (Call σ) :=
  ((execute t s.1).1, (execute t s.1).2,
    s.2 ++ [⟨t, s.1, (execute t s.1).1, (execute t s.1).2⟩])

/-- Calls in a row: whether or not a call failed, the next one finds the state that it left. -/
inductive Linked (execute : Statement → σ → Except Failure Unit × σ) : σ → List (Call σ) → σ → Prop
  | nil (s : σ) : Linked execute s [] s
  | cons {c : Call σ} {cs : List (Call σ)} {s : σ}
      (answer : execute c.statement c.before = (c.outcome, c.after))
      (rest : Linked execute c.after cs s) : Linked execute c.before (c :: cs) s

variable (execute : Statement → σ → Except Failure Unit × σ)

/-- A run from any report and any list on: the statements go to the executor one by one, and the calls
that fail are added to the report. -/
lemma runAll_recording (ts : List Statement) (r : Report) (s : σ) (log : List (Call σ)) :
    ∃ cs, runAll (recording execute) ts r (s, log) =
        ((runAll execute ts r s).1, (runAll execute ts r s).2, log ++ cs) ∧
      cs.map (·.statement) = ts ∧ Linked execute s cs (runAll execute ts r s).2 ∧
      (runAll execute ts r s).1.casualties = r.casualties ++ cs.filterMap Call.casualty? := by
  induction ts generalizing r s log with
  | nil => exact ⟨[], by simp [runAll], rfl, .nil s, by simp [runAll]⟩
  | cons t ts ih =>
    let c : Call σ := ⟨t, s, (execute t s).1, (execute t s).2⟩
    obtain ⟨cs, hrun, hstatements, hlinked, hcasualties⟩ := ih (r.record t c.outcome) c.after (log ++ [c])
    refine ⟨c :: cs, ?_, congrArg (t :: ·) hstatements, .cons rfl hlinked, ?_⟩
    · rw [List.append_cons]
      exact hrun
    · have hrecord : (r.record t c.outcome).casualties = r.casualties ++ c.casualty?.toList := by
        unfold Report.record Call.casualty? Call.failure?
        split <;> simp_all [c]
      rw [hrecord] at hcasualties
      rw [runAll]
      refine hcasualties.trans ?_
      cases hc : c.casualty? <;> simp [hc]

/-- **Best effort**: whatever the executor does, each statement of a list is handed to it once, in order,
and finds the state that the statement before it left, failed or not; to keep a list of the calls changes
nothing. The report has exactly the calls that failed, with their failures and in their order. It is a
success if none failed, its message joins what is said about each of them, and its first failure is that
of the earliest. -/
theorem runAll_best_effort (ts : List Statement) (s : σ) :
    let report := (runAll execute ts {} s).1
    let calls := (runAll (recording execute) ts {} (s, [])).2.2
    runAll (recording execute) ts {} (s, []) = (report, (runAll execute ts {} s).2, calls) ∧
      calls.map (·.statement) = ts ∧ Linked execute s calls (runAll execute ts {} s).2 ∧
      report.casualties = calls.filterMap Call.casualty? ∧
      (report.isSuccess = true ↔ ∀ c ∈ calls, c.outcome = .ok ()) ∧
      report.message = "; ".intercalate (calls.filterMap Call.complaint?) ∧
      ∀ f, report.firstFailure? = some f ↔ ∃ earlier c later, calls = earlier ++ c :: later ∧
        (∀ b ∈ earlier, b.outcome = .ok ()) ∧ c.outcome = .error f := by
  obtain ⟨cs, hrun, hstatements, hlinked, hcasualties⟩ := runAll_recording execute ts {} s []
  rw [List.nil_append] at hrun hcasualties
  intro report calls
  have hcalls : calls = cs := by simp only [calls, hrun]
  rw [hcalls]
  refine ⟨hrun, hstatements, hlinked, hcasualties, ?_, ?_, fun f => ?_⟩
  · simp [Report.isSuccess, report, hcasualties, Call.casualty?, Call.failure?_eq_none]
  · have hline : (fun c : Call σ => c.casualty?.map Casualty.message) = Call.complaint? := by
      funext c
      simp [Call.casualty?, Call.complaint?, Function.comp_def, Casualty.message]
    rw [Report.message, hcasualties, List.map_filterMap, hline]
  · have hfirst : (fun c : Call σ => c.casualty?.map (·.failure)) = Call.failure? := by
      funext c
      simp [Call.casualty?, Function.comp_def]
    rw [Report.firstFailure?, hcasualties, List.head?_filterMap, List.map_findSome?,
      Function.comp_def, hfirst, List.findSome?_eq_some_iff]
    simp only [Call.failure?_eq_some, Call.failure?_eq_none, and_comm]

end Provisioner.Sql
