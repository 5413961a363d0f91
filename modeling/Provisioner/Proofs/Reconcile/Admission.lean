import Provisioner.Proofs.Reconcile.Effects
import Provisioner.Proofs.Resource.Validation
import Provisioner.Proofs.Sql.Rendering

/-!
What it means that a spec is admitted.

The statements of a spec have texts exactly if the spec has no faults, up to the password, which only
the validation looks at. What is said of the faults does not depend on the order in which they were
found.
-/

namespace Provisioner

namespace Spec

/-! ### The faults, field by field -/

/-- In the order of their names. -/
inductive Field where
  | database
  | password
  | username
  deriving DecidableEq

namespace Field

def all : List Field := [.database, .password, .username]

def text : Field → String
  | .database => "database"
  | .password => "password"
  | .username => "username"

end Field

/-- What is reported of a field that breaks its rule. -/
structure Violation where
  code : String
  message : Option String := none
  deriving DecidableEq

/-- A violation without a message is told by its code. -/
def Violation.line (v : Violation) (field : String) : String := field ++ ": " ++ v.message.getD v.code

def nameViolation (value : String) : Violation where
  code := "invalid_identifier"
  message := some ("'" ++ value ++ "' must start with a letter or underscore, contain only " ++
    "letters, digits and underscores, and be at most " ++ toString Sql.maxIdentifierBytes ++ " bytes")

def passwordViolation : Violation where
  code := "length"
  message := some "password must not be empty"

variable (s : Spec)

def offends : Field → Bool
  | .database => !Sql.isIdentifier s.database
  | .password => s.password = ""
  | .username => !Sql.isIdentifier s.username

def violation : Field → Violation
  | .database => nameViolation s.database
  | .password => passwordViolation
  | .username => nameViolation s.username

def complaint (f : Field) : String := (s.violation f).line f.text

/-- The fields that break their rules, in the order of their names. -/
def offending : List Field := Field.all.filter s.offends

lemma identifierFault_eq (field value : String) : identifierFault field value =
    if Sql.isIdentifier value then [] else [(nameViolation value).line field] := by
  have hquote : ": '" = ": " ++ "'" := rfl
  simp only [identifierFault, nameViolation, Violation.line, hquote, Option.getD_some,
    String.append_assoc]

/-- Each field has its own line, or none. -/
lemma fault_eq (f : Field) : (match f with
      | .database => identifierFault "database" s.database
      | .password => passwordFault s.password
      | .username => identifierFault "username" s.username) =
    if s.offends f then [s.complaint f] else [] := by
  cases f with
  | password =>
    by_cases h : s.password = "" <;> simp [passwordFault, offends, h]
    rfl
  | database | username =>
    simp only [identifierFault_eq, offends, Bool.not_eq_true', ← Bool.not_eq_true, ite_not]
    rfl

lemma faults_eq : s.faults = s.offending.map s.complaint := by
  have cons (f : Field) (fs : List Field) : ((f :: fs).filter s.offends).map s.complaint =
      (if s.offends f then [s.complaint f] else []) ++ (fs.filter s.offends).map s.complaint := by
    cases h : s.offends f <;> simp [h]
  rw [offending, Field.all, cons, cons, cons, ← fault_eq, ← fault_eq, ← fault_eq, faults]
  simp

lemma line_le {f g : String} {c d : Char} {cs ds : List Char} (hf : f.toList = c :: cs)
    (hg : g.toList = d :: ds) (h : c < d) (v w : Violation) : v.line f ≤ w.line g := by
  intro hlt
  have hlt : (w.line g).toList < (v.line f).toList := hlt
  simp only [Violation.line, String.toList_append, hf, hg, List.cons_append,
    List.cons_lt_cons_iff] at hlt
  rcases hlt with hlt | ⟨rfl, -⟩
  · exact absurd (Char.lt_trans h hlt) (Char.lt_irrefl _)
  · exact Char.lt_irrefl _ h

/-- Every complaint begins with the name of its field, so the order of the fields is that of the
texts. -/
lemma complaint_le : Field.all.Pairwise fun f g => s.complaint f ≤ s.complaint g := by
  have hdp : s.complaint .database ≤ s.complaint .password := line_le rfl rfl (by decide) _ _
  have hdu : s.complaint .database ≤ s.complaint .username := line_le rfl rfl (by decide) _ _
  have hpu : s.complaint .password ≤ s.complaint .username := line_le rfl rfl (by decide) _ _
  simp [Field.all, hdp, hdu, hpu]

/-! ### The faults in any order -/

/-- Everything that was reported, field by field, on one line: sorted, so that it does not matter how
the fields were gone through. -/
def summary (errors : List (String × List Violation)) : String :=
  "; ".intercalate ((errors.flatMap fun e => e.2.map (Violation.line · e.1)).mergeSort (· ≤ ·))

/-- The report has every field that breaks its rule, once, in some order. -/
def Reports (errors : List (String × List Violation)) : Prop :=
  errors.Perm (s.offending.map fun f => (f.text, [s.violation f]))

variable {s} {errors : List (String × List Violation)}

lemma Reports.summary_eq (h : s.Reports errors) : summary errors = "; ".intercalate s.faults := by
  have hlines : (s.offending.map fun f => (f.text, [s.violation f])).flatMap
      (fun e => e.2.map (Violation.line · e.1)) = s.faults := by
    rw [faults_eq, List.flatMap_map]
    exact List.map_eq_flatMap.symm
  have hperm : (errors.flatMap fun e => e.2.map (Violation.line · e.1)).Perm s.faults :=
    hlines ▸ h.flatMap_right _
  have hsorted : s.faults.Pairwise (· ≤ ·) := by
    rw [faults_eq]
    exact List.pairwise_map.2 (s.complaint_le.filter _)
  have htrans (a b c : String) (hab : decide (a ≤ b) = true) (hbc : decide (b ≤ c) = true) :
      decide (a ≤ c) = true := by
    simp only [decide_eq_true_eq] at *
    exact String.le_trans hab hbc
  have htotal (a b : String) : (decide (a ≤ b) || decide (b ≤ a)) = true := by
    simpa using String.le_total a b
  refine congrArg _ (List.Perm.eq_of_pairwise (fun a b _ _ => String.le_antisymm) ?_ hsorted
    ((List.mergeSort_perm _ _).trans hperm))
  simpa using List.pairwise_mergeSort htrans htotal
    (errors.flatMap fun e => e.2.map (Violation.line · e.1))

lemma Reports.nil_iff (h : s.Reports errors) : errors = [] ↔ s.faults = [] := by
  rw [faults_eq, List.map_eq_nil_iff]
  constructor
  · rintro rfl
    exact List.map_eq_nil_iff.1 (List.nil_perm.1 h)
  · intro hf
    rw [Reports, hf] at h
    exact List.perm_nil.1 h

/-- In whatever order the fields are reported, the verdict is the same. -/
lemma Reports.validate_eq (h : s.Reports errors) :
    s.validate = if errors.isEmpty then .ok () else .error (summary errors) := by
  rw [validate, h.summary_eq]
  refine if_congr ?_ rfl rfl
  rw [List.isEmpty_iff, List.isEmpty_iff, h.nil_iff]

/-! ### Specs that are admitted -/

/-- The password apart, what makes a spec valid is that its statements have texts. -/
lemma validate_iff_render : s.validate = .ok () ↔ s.password ≠ "" ∧
    ∀ t ∈ (Stage.provisioning s).remaining, ∃ text, t.render? = .ok text := by
  constructor
  · intro h
    exact ⟨(validate_eq_ok.1 h).2.2,
      fun t ht => exists_render?_eq_ok h (Stage.provisioning_subset s ht)⟩
  · rintro ⟨hpassword, htexts⟩
    -- both names are in the second statement
    obtain ⟨text, htext⟩ := htexts (.createDatabase s.database s.username)
      (Stage.mem_provisioning.2 (.inr rfl))
    have hnames := Sql.Statement.isName_of_render? htext
    have husername := hnames s.username (by simp [Sql.Statement.names])
    have hdatabase := hnames s.database (by simp [Sql.Statement.names])
    exact validate_eq_ok.2
      ⟨Sql.isIdentifier_iff.2 husername, Sql.isIdentifier_iff.2 hdatabase, hpassword⟩

/-- What is said of a spec that is not valid. -/
lemma validate_eq_error {message : String} : s.validate = .error message ↔
    s.offending ≠ [] ∧ message = "; ".intercalate (s.offending.map s.complaint) := by
  rw [validate, faults_eq]
  cases s.offending with
  | nil => simp
  | cons f fs => simp [eq_comm]

end Spec

/-- Only statements of an admitted spec are executed. -/
lemma Course.mem_statements {policy : Policy} {x : Option Resource} {es : List Effect} {a : Attempt}
    (h : Course policy x es a) {t : Sql.Statement} {answer : Except Failure Unit}
    (ht : .executed t answer ∈ es) :
    ∃ r, x = some r ∧ r.spec.validate = .ok () ∧ t ∈ r.spec.statements := by
  have closing (r : Resource) (result : Attempt) :
      .executed t answer ∉ (Effect.closing r result).1 := by
    unfold Effect.closing
    split
    · simp
    · split_ifs <;> simp
  cases h with
  | absent => simp at ht
  | provisioned | held => simp at ht
  | invalid hd hspec write => simp [closing] at ht
  | @valid r hd hspec user database write =>
    refine ⟨r, rfl, hspec, ?_⟩
    simp only [List.mem_append, closing, or_false, List.mem_cons, Effect.executed.injEq,
      reduceCtorEq, List.not_mem_nil] at ht
    rcases ht with ⟨rfl, -⟩ | ⟨rfl, -⟩ <;> simp [Spec.statements]

/-- **Admission**: a spec is valid exactly if its password is not empty and the two statements that
provision it have texts. Then so have the two statements that undo it, and they are about the same
names; no attempt, in whatever surroundings, executes a statement without a text. Of a spec that is not
valid, it is said what is wrong with each field that breaks its rule, in the order of their names, and
the order in which the fields were reported does not matter. -/
theorem Spec.admission_agrees (s : Spec) :
    (s.validate = .ok () ↔ s.password ≠ "" ∧
      ∀ t ∈ (Stage.provisioning s).remaining, ∃ text, t.render? = .ok text) ∧
    (s.validate = .ok () →
      ∀ t ∈ (Surroundings.cleanup s).remaining, ∃ text, t.render? = .ok text) ∧
    (∀ name, (∃ t ∈ (Surroundings.cleanup s).remaining, name ∈ t.names) ↔
      ∃ t ∈ (Stage.provisioning s).remaining, name ∈ t.names) ∧
    (∀ {σ : Type} (e : Surroundings σ) (policy : Policy) (k : Key) (x : σ) (t : Sql.Statement)
      (answer : Except Failure Unit),
      .executed t answer ∈ (e.recorded.reconcile policy k (x, [])).2.2 →
        ∃ text, t.render? = .ok text) ∧
    (∀ message, s.validate = .error message ↔
      s.offending ≠ [] ∧ message = "; ".intercalate (s.offending.map s.complaint)) ∧
    ∀ errors, s.Reports errors →
      s.validate = if errors.isEmpty then .ok () else .error (summary errors) := by
  refine ⟨validate_iff_render, fun h t ht => ?_, fun name => ?_, fun e policy k x t answer ht => ?_,
    fun message => validate_eq_error, fun errors h => h.validate_eq⟩
  · exact exists_render?_eq_ok h (Surroundings.cleanup_subset s ht)
  · simp [Surroundings.mem_cleanup, Stage.mem_provisioning, Sql.Statement.names, or_comm]
  · obtain ⟨r, -, hvalid, hmem⟩ := (e.recorded_start policy (e.lookup k x) x).mem_statements ht
    exact exists_render?_eq_ok hvalid hmem

end Provisioner
