import Mathlib.Data.List.Induction
import Provisioner.Proofs.Resource.Validation
import Provisioner.Proofs.Sql.Server

/-!
What a list of statements leaves of the two names of a spec.

If nobody else touches the names, a name is there in the end if its creation is not followed by its
removal; a database also needs its role at the moment of its creation.
-/

namespace Provisioner.Spec

open Sql Server

variable (s : Spec)

/-- The statement touches neither name. -/
def Apart : Statement → Prop
  | .createUser u _ | .dropRole u => u ≠ s.username
  | .createDatabase d _ | .dropDatabase d => d ≠ s.database

/-- Neither name of the spec is in the statement. -/
def Unmentioned : Statement → Prop
  | .createUser u _ | .dropRole u => u ≠ s.username
  | .createDatabase d o => d ≠ s.database ∧ o ≠ s.username
  | .dropDatabase d => d ≠ s.database

/-- The specs have no name in common. -/
structure Disjoint (s s' : Spec) : Prop where
  username : s.username ≠ s'.username
  database : s.database ≠ s'.database

/-- The statements touch the names only as the spec itself has it. -/
def Owns (ts : List Statement) : Prop := ∀ t ∈ ts, t ∈ s.statements ∨ s.Apart t

abbrev createUser : Statement := .createUser s.username s.password

abbrev createDatabase : Statement := .createDatabase s.database s.username

abbrev dropDatabase : Statement := .dropDatabase s.database

abbrev dropRole : Statement := .dropRole s.username

/-- The statement removes one of the names. -/
def Drops (t : Statement) : Bool := t ∈ [s.dropDatabase, s.dropRole]

variable {s} {sv : Server} {ts : List Statement}

/-! ### Statements of others -/

lemma Unmentioned.apart {t : Statement} (h : s.Unmentioned t) : s.Apart t := by
  cases t with
  | createUser u p | dropRole u | dropDatabase d => exact h
  | createDatabase d o => exact h.1

lemma Disjoint.unmentioned {s' : Spec} (h : s'.Disjoint s) {t : Statement} (ht : t ∈ s'.statements) :
    s.Unmentioned t := by
  simp only [statements, List.mem_cons, List.not_mem_nil, or_false] at ht
  rcases ht with rfl | rfl | rfl | rfl
  · exact h.username
  · exact ⟨h.database, h.username⟩
  · exact h.database
  · exact h.username

lemma Apart.ne_of_mem {t u : Statement} (h : s.Apart t) (hu : u ∈ s.statements) : t ≠ u := by
  rintro rfl
  simp only [statements, List.mem_cons, List.not_mem_nil, or_false] at hu
  rcases hu with rfl | rfl | rfl | rfl <;> exact h rfl

lemma Apart.hasRole_run {t : Statement} (h : s.Apart t) :
    (sv.run t).2.hasRole s.username = sv.hasRole s.username := by
  rw [Server.hasRole_run]
  cases t with
  | createUser u p | dropRole u =>
    have hu : s.username ≠ u := Ne.symm h
    simp [hu]
  | createDatabase d o | dropDatabase d => rfl

lemma Apart.hasDatabase_run {t : Statement} (h : s.Apart t) :
    (sv.run t).2.hasDatabase s.database = sv.hasDatabase s.database := by
  rw [Server.hasDatabase_run]
  cases t with
  | createUser u p | dropRole u => rfl
  | createDatabase d o | dropDatabase d =>
    have hd : s.database ≠ d := Ne.symm h
    simp [hd]

/-! ### Many statements -/

lemma Owns.of_concat {t : Statement} (h : s.Owns (ts ++ [t])) :
    s.Owns ts ∧ (t ∈ s.statements ∨ s.Apart t) :=
  ⟨fun x hx => h x (by simp [hx]), h t (by simp)⟩

lemma hasRole_after (h : s.Owns ts) (h₀ : sv.hasRole s.username = false) :
    (sv.after ts).hasRole s.username = true ↔
      Stands (fun _ => True) s.createUser s.dropRole ts := by
  induction ts using List.reverseRecOn with
  | nil => simp [after, h₀, not_stands_nil]
  | append_singleton ts t ih =>
    obtain ⟨hts, ht⟩ := h.of_concat
    rw [after_concat, stands_concat, ← ih hts]
    rcases ht with ht | ht
    · simp only [statements, List.mem_cons, List.not_mem_nil, or_false] at ht
      rcases ht with rfl | rfl | rfl | rfl <;> simp [Server.hasRole_run]
    · have hcreate : t ≠ s.createUser := ht.ne_of_mem (by simp [statements])
      have hdrop : t ≠ s.dropRole := ht.ne_of_mem (by simp [statements])
      simp [ht.hasRole_run, hcreate, hdrop]

lemma hasDatabase_after (h : s.Owns ts) (h₀ : sv.hasDatabase s.database = false) :
    (sv.after ts).hasDatabase s.database = true ↔
      Stands (fun l => (sv.after l).hasRole s.username = true) s.createDatabase s.dropDatabase
        ts := by
  induction ts using List.reverseRecOn with
  | nil => simp [after, h₀, not_stands_nil]
  | append_singleton ts t ih =>
    obtain ⟨hts, ht⟩ := h.of_concat
    rw [after_concat, stands_concat, ← ih hts]
    rcases ht with ht | ht
    · simp only [statements, List.mem_cons, List.not_mem_nil, or_false] at ht
      rcases ht with rfl | rfl | rfl | rfl <;> simp [Server.hasDatabase_run, or_comm]
    · have hcreate : t ≠ s.createDatabase := ht.ne_of_mem (by simp [statements])
      have hdrop : t ≠ s.dropDatabase := ht.ne_of_mem (by simp [statements])
      simp [ht.hasDatabase_run, hcreate, hdrop]

/-! ### One clean-up among them -/

/-- The two removals are carried out once, the database's first. -/
structure Cleanup (s : Spec) (ts x y z : List Statement) : Prop where
  split : ts = x ++ s.dropDatabase :: (y ++ s.dropRole :: z)
  before : s.dropDatabase ∉ x ∧ s.dropRole ∉ x
  between : s.dropDatabase ∉ y ∧ s.dropRole ∉ y
  behind : s.dropDatabase ∉ z ∧ s.dropRole ∉ z

lemma exists_cleanup (h : ts.filter s.Drops = [s.dropDatabase, s.dropRole]) :
    ∃ x y z, s.Cleanup ts x y z := by
  obtain ⟨x, ts, rfl, hx, -, h⟩ := List.filter_eq_cons_iff.1 h
  obtain ⟨y, z, rfl, hy, -, hz⟩ := List.filter_eq_cons_iff.1 h
  rw [List.filter_eq_nil_iff] at hz
  have out {l : List Statement} (hl : ∀ t ∈ l, ¬s.Drops t = true) :
      s.dropDatabase ∉ l ∧ s.dropRole ∉ l :=
    ⟨fun h => hl _ h (by simp [Drops]), fun h => hl _ h (by simp [Drops])⟩
  exact ⟨x, y, z, rfl, out hx, out hy, out hz⟩

variable {x y z : List Statement}

/-- If no removal is among the first statements, it is all among the later ones. -/
lemma Cleanup.subset {us : List Statement} (hc : s.Cleanup (ts ++ us) x y z)
    (hts : s.dropDatabase ∉ ts) : y ⊆ us ∧ z ⊆ us := by
  rcases List.append_eq_append_iff.1 hc.split with ⟨as, -, e⟩ | ⟨bs, rfl, e⟩
  · rw [e]
    constructor <;> intro t ht <;> simp [ht]
  · rcases bs with _ | ⟨b, bs⟩
    · obtain rfl : s.dropDatabase :: (y ++ s.dropRole :: z) = us := e
      constructor <;> intro t ht <;> simp [ht]
    · obtain rfl := (List.cons.inj e).1
      exact absurd (by simp) hts

lemma Cleanup.hasRole_iff (hc : s.Cleanup ts x y z) (h : s.Owns ts)
    (h₀ : sv.hasRole s.username = false) :
    (sv.after ts).hasRole s.username = true ↔ s.createUser ∈ z := by
  rw [hasRole_after h h₀, hc.split, ← List.cons_append, ← List.append_assoc,
    stands_append (by simp) hc.behind.2]
  constructor
  · rintro ⟨l₁, l₂, rfl, -⟩
    simp
  · intro hz
    obtain ⟨l₁, l₂, rfl⟩ := List.append_of_mem hz
    exact ⟨l₁, l₂, rfl, trivial⟩

/-- Neither name is left exactly if the role is not created after its removal, and the database not
between the two removals. -/
theorem Cleanup.neither_iff (hc : s.Cleanup ts x y z) (h : s.Owns ts)
    (hr : sv.hasRole s.username = false) (hd : sv.hasDatabase s.database = false)
    (hu : ∀ l₁ l₂, ts = l₁ ++ s.createDatabase :: l₂ → s.createUser ∈ l₁) :
    ((sv.after ts).hasRole s.username = false ∧ (sv.after ts).hasDatabase s.database = false) ↔
      s.createUser ∉ z ∧ s.createDatabase ∉ y := by
  have hdb : (sv.after ts).hasDatabase s.database = true ↔
      ∃ l₁ l₂, y ++ s.dropRole :: z = l₁ ++ s.createDatabase :: l₂ ∧
        (sv.after (x ++ s.dropDatabase :: l₁)).hasRole s.username = true := by
    rw [hasDatabase_after h hd]
    conv_lhs => rw [hc.split]
    refine stands_append (by simp) ?_
    simp [hc.between.1, hc.behind.1]
  rw [← Bool.not_eq_true, ← Bool.not_eq_true, hc.hasRole_iff h hr, hdb]
  refine and_congr_right fun hz => not_congr ⟨?_, fun hy => ?_⟩
  · rintro ⟨l₁, l₂, hl, hrole⟩
    by_contra hy
    -- a database that is created behind the second removal has no role to belong to
    rcases List.append_eq_append_iff.1 hl with ⟨as, rfl, e⟩ | ⟨bs, rfl, e⟩
    · rcases as with _ | ⟨a, as⟩
      · simp at e
      · obtain ⟨rfl, rfl⟩ : s.dropRole = a ∧ z = as ++ s.createDatabase :: l₂ := List.cons.inj e
        have hc' : s.Cleanup (x ++ s.dropDatabase :: (y ++ s.dropRole :: as)) x y as :=
          ⟨rfl, hc.before, hc.between, fun h => hc.behind.1 (by simp [h]),
            fun h => hc.behind.2 (by simp [h])⟩
        refine hz (List.mem_append_left _ ((hc'.hasRole_iff (fun t ht => h t ?_) hr).1 hrole))
        rw [hc.split]
        simp only [List.mem_append, List.mem_cons] at ht ⊢
        tauto
    · rcases bs with _ | ⟨b, bs⟩
      · simp at e
      · exact hy (by simp [(List.cons.inj e).1])
  · obtain ⟨l₁, l₂, rfl⟩ := List.append_of_mem hy
    have hs : ts = (x ++ s.dropDatabase :: l₁) ++ s.createDatabase :: (l₂ ++ s.dropRole :: z) := by
      rw [hc.split]
      simp
    refine ⟨l₁, l₂ ++ s.dropRole :: z, by simp, ?_⟩
    rw [hasRole_after (fun t ht => h t (by rw [hs]; exact List.mem_append_left _ ht)) hr]
    refine stands_of_mem (hu _ _ hs) fun hm => ?_
    simp only [List.mem_append, List.mem_cons, reduceCtorEq, false_or] at hm
    exact hm.elim hc.before.2 fun hm => hc.between.2 (by simp [hm])

end Provisioner.Spec
