import Mathlib.Tactic.Common
import Provisioner.Resource.Validation
import Provisioner.Sql.Statement

/-!
What a spec without faults is good for: every statement made of it has a text.
-/

namespace Provisioner.Spec

variable {s : Spec}

lemma identifierFault_eq_nil {field value : String} :
    identifierFault field value = [] ↔ Sql.isIdentifier value = true := by
  unfold identifierFault
  split_ifs with h <;> simp [h]

lemma passwordFault_eq_nil {value : String} : passwordFault value = [] ↔ value ≠ "" := by
  unfold passwordFault
  split_ifs with h <;> simp [h]

lemma validate_eq_ok :
    s.validate = .ok () ↔ Sql.isIdentifier s.username = true ∧
      Sql.isIdentifier s.database = true ∧ s.password ≠ "" := by
  have h : s.faults = [] ↔ Sql.isIdentifier s.database = true ∧ s.password ≠ "" ∧
      Sql.isIdentifier s.username = true := by
    simp only [faults, List.append_eq_nil_iff, identifierFault_eq_nil, passwordFault_eq_nil]
    tauto
  have hv : s.validate = .ok () ↔ s.faults = [] := by
    unfold validate
    split_ifs with hf <;> simpa using hf
  rw [hv, h]
  tauto

/-- All statements that are ever made of a spec. -/
def statements (s : Spec) : List Sql.Statement :=
  [.createUser s.username s.password, .createDatabase s.database s.username,
    .dropDatabase s.database, .dropRole s.username]

lemma exists_render?_eq_ok (h : s.validate = .ok ()) {t : Sql.Statement} (ht : t ∈ s.statements) :
    ∃ text, t.render? = .ok text := by
  obtain ⟨hu, hd, -⟩ := validate_eq_ok.1 h
  have hu' : Sql.identifier? s.username = .ok s.username := if_pos hu
  have hd' : Sql.identifier? s.database = .ok s.database := if_pos hd
  simp only [statements, List.mem_cons, List.not_mem_nil, or_false] at ht
  rcases ht with rfl | rfl | rfl | rfl
  · exact ⟨_, by simp only [Sql.Statement.render?, hu']; rfl⟩
  · exact ⟨_, by simp only [Sql.Statement.render?, hu', hd']; rfl⟩
  · exact ⟨_, by simp only [Sql.Statement.render?, hd']; rfl⟩
  · exact ⟨_, by simp only [Sql.Statement.render?, hu']; rfl⟩

end Provisioner.Spec
