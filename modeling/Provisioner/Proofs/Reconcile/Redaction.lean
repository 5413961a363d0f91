import Provisioner.Proofs.Reconcile.Basic
import Provisioner.Sql.Server

/-!
Resources and statements with their passwords blotted out.

A password decides only whether a spec is valid, and that only by being empty. So what an attempt does
next, and everything that is written down about it, can be told without the passwords.
-/

namespace Provisioner

/-! ### Statements and reports -/

namespace Sql

def Statement.redacted : Statement → Statement
  | .createUser username _ => .createUser username ""
  | t => t

variable {t u : Statement}

lemma Statement.action_redacted (t : Statement) : t.redacted.action = t.action := by
  cases t <;> rfl

lemma Statement.masked_redacted (t : Statement) : t.redacted.masked = t.masked := by
  cases t <;> rfl

lemma Statement.outline_redacted (t : Statement) : t.redacted.outline = t.outline := by
  cases t <;> rfl

/-- A text is refused for its names alone. -/
lemma Statement.refused_redacted (t : Statement) (f : Failure) :
    t.redacted.render? = .error f ↔ t.render? = .error f := by
  cases t with
  | createUser username password =>
    simp only [redacted, render?]
    cases identifier? username <;> simp [bind, Except.bind, pure, Except.pure]
  | createDatabase database owner | dropDatabase database | dropRole username => exact Iff.rfl

/-- The server keeps no passwords. -/
lemma Server.run_redacted (s : Server) (t : Statement) : s.run t.redacted = s.run t := by
  cases t <;> rfl

def Casualty.redacted (c : Casualty) : Casualty := { c with statement := c.statement.redacted }

lemma Casualty.message_redacted (c : Casualty) : c.redacted.message = c.message := by
  simp only [message, redacted, Statement.action_redacted]

def Report.redacted (r : Report) : Report := ⟨r.casualties.map Casualty.redacted⟩

lemma Report.redacted_record (r : Report) (t : Statement) (o : Except Failure Unit) :
    (r.record t o).redacted = r.redacted.record t.redacted o := by
  cases o with
  | ok _ => rfl
  | error f => simp [record, redacted, Casualty.redacted]

/-- All that can be read in a report. -/
structure Reading where
  success : Bool
  message : String
  first : Option Failure
  /-- For each statement that failed: what is said of it, the statement in both its forms, and the
  failure. -/
  lines : List (String × String × String × Failure)
  deriving DecidableEq

def Report.reading (r : Report) : Reading where
  success := r.isSuccess
  message := r.message
  first := r.firstFailure?
  lines := r.casualties.map fun c =>
    (c.message, c.statement.masked, c.statement.outline, c.failure)

lemma Report.reading_redacted (r : Report) : r.redacted.reading = r.reading := by
  have hmessage : r.redacted.message = r.message := by
    simp only [message, redacted, List.map_map, Function.comp_def, Casualty.message_redacted]
  have hfirst : r.redacted.firstFailure? = r.firstFailure? := by
    simp [firstFailure?, redacted, Casualty.redacted, Function.comp_def]
  have hlines : (r.redacted.casualties.map fun c =>
      (c.message, c.statement.masked, c.statement.outline, c.failure)) =
      r.casualties.map fun c => (c.message, c.statement.masked, c.statement.outline, c.failure) := by
    simp only [redacted, List.map_map, Function.comp_def, Casualty.message_redacted]
    simp only [Casualty.redacted, Statement.masked_redacted, Statement.outline_redacted]
  simp only [reading, hmessage, hfirst, hlines]
  simp [isSuccess, redacted]

def Batch.redacted (b : Batch) : Batch :=
  ⟨b.current.redacted, b.rest.map Statement.redacted, b.report.redacted⟩

lemma Batch.redacted_reportWith (b : Batch) (o : Except Failure Unit) :
    (b.reportWith o).redacted = b.redacted.reportWith o :=
  b.report.redacted_record b.current o

lemma Batch.redacted_advance? (b : Batch) (o : Except Failure Unit) :
    (b.advance? o).map redacted = b.redacted.advance? o := by
  obtain ⟨t, _ | ⟨u, us⟩, report⟩ := b
  · rfl
  · simp [advance?, redacted, redacted_reportWith]

end Sql

/-! ### Resources -/

def Resource.redacted (r : Resource) : Resource :=
  { r with spec := { r.spec with password := "" } }

/-- The same but for the password, which is empty in both or in neither. -/
structure Resource.Alike (r s : Resource) : Prop where
  redacted : r.redacted = s.redacted
  given : r.spec.password = "" ↔ s.spec.password = ""

namespace Resource.Alike

variable {r s : Resource}

lemma metadata (h : r.Alike s) : r.metadata = s.metadata := congrArg (·.metadata) h.redacted

lemma username (h : r.Alike s) : r.spec.username = s.spec.username :=
  congrArg (·.spec.username) h.redacted

lemma database (h : r.Alike s) : r.spec.database = s.spec.database :=
  congrArg (·.spec.database) h.redacted

lemma progress (h : r.Alike s) : r.progress = s.progress := by
  change r.redacted.progress = s.redacted.progress
  rw [h.redacted]

lemma key (h : r.Alike s) : Key.ofResource r = Key.ofResource s := by
  simp only [Key.ofResource, h.metadata]

lemma withStatus (h : r.Alike s) (status : Status) :
    (r.withStatus status).Alike (s.withStatus status) where
  redacted := congrArg (·.withStatus status) h.redacted
  given := h.given

lemma validate (h : r.Alike s) : r.spec.validate = s.spec.validate := by
  have hp : Spec.passwordFault r.spec.password = Spec.passwordFault s.spec.password :=
    if_congr h.given rfl rfl
  have hf : r.spec.faults = s.spec.faults := by
    simp only [Spec.faults, h.username, h.database, hp]
  rw [Spec.validate, Spec.validate, hf]

lemma provisioning (h : r.Alike s) :
    (Stage.provisioning r.spec).redacted = (Stage.provisioning s.spec).redacted := by
  simp [Stage.provisioning, Sql.Batch.redacted, Sql.Statement.redacted, h.username, h.database]

lemma cleanup (h : r.Alike s) : Surroundings.cleanup r.spec = Surroundings.cleanup s.spec := by
  simp only [Surroundings.cleanup, h.username, h.database]

end Resource.Alike

/-! ### Stages -/

namespace Stage

/-- The same stage of an attempt, but for the passwords. -/
inductive Alike : Stage → Stage → Prop
  | execute {r s : Resource} {b c : Sql.Batch} (hr : r.Alike s) (hb : b.redacted = c.redacted) :
    Alike (.execute r b) (.execute s c)
  | write {r s : Resource} (hr : r.Alike s) (v : Verdict) : Alike (.write r v) (.write s v)
  | publish {r s : Resource} (hr : r.Alike s) (a : Attempt) : Alike (.publish r a) (.publish s a)
  | finished (a : Attempt) : Alike (.finished a) (.finished a)

variable {r s : Resource}

lemma verdict_redacted (x : Sql.Report) : verdict x.redacted = verdict x := by
  have hfirst : x.redacted.firstFailure? = x.firstFailure? := congrArg (·.first) x.reading_redacted
  have hmessage : x.redacted.message = x.message := congrArg (·.message) x.reading_redacted
  simp only [verdict, hfirst, hmessage]

lemma alike_conclude (h : r.Alike s) (a : Attempt) : Alike (conclude r a) (conclude s a) := by
  cases a with
  | ok o => exact .publish h _
  | error f =>
    simp only [conclude]
    split_ifs
    · exact .finished _
    · exact .publish h _

lemma alike_afterWrite (h : r.Alike s) (v : Verdict) (o : Except Failure Unit) :
    Alike (afterWrite r v o) (afterWrite s v o) := by
  rw [afterWrite_eq, afterWrite_eq]
  exact alike_conclude h _

lemma alike_afterStatement (h : r.Alike s) {b c : Sql.Batch} (hb : b.redacted = c.redacted)
    (o : Except Failure Unit) : Alike (afterStatement r b o) (afterStatement s c o) := by
  have hnext : (b.advance? o).map Sql.Batch.redacted = (c.advance? o).map Sql.Batch.redacted := by
    rw [b.redacted_advance?, c.redacted_advance?, hb]
  have hverdict : verdict (b.reportWith o) = verdict (c.reportWith o) := by
    rw [← verdict_redacted, b.redacted_reportWith, hb, ← c.redacted_reportWith, verdict_redacted]
  unfold afterStatement
  cases hb' : b.advance? o with
  | none =>
    rw [hb'] at hnext
    have hc' : c.advance? o = none := Option.map_eq_none_iff.1 hnext.symm
    rw [hc', hverdict]
    exact .write h _
  | some b' =>
    obtain ⟨c', hc', hbc⟩ : ∃ c', c.advance? o = some c' ∧ c'.redacted = b'.redacted := by
      simpa [hb', eq_comm] using hnext
    rw [hc']
    exact .execute h hbc.symm

lemma alike_provision (h : r.Alike s) : Alike (provision r) (provision s) := by
  unfold provision
  rw [h.validate]
  split
  · exact .write h _
  · exact .execute h h.provisioning

/-- The password has no say in what is begun. -/
lemma alike_start (policy : Policy) {x y : Option Resource} (h : Option.Rel Resource.Alike x y) :
    Alike (start policy x) (start policy y) := by
  cases h with
  | none => exact .finished _
  | @some r s h =>
    simp only [start, h.progress]
    split
    · exact .publish h _
    · exact .publish h _
    · exact alike_provision h
    · exact alike_provision h

end Stage

end Provisioner
