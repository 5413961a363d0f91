import Mathlib.Tactic.Common
import Provisioner.Sql.Server

/-!
What a statement does to the roles and the databases of a server, name by name.

A statement changes at most the one name that it is about. Creating a role makes it present whether
or not it was; a database is created only for a role that is there.
-/

namespace Provisioner.Sql.Server

variable (s : Server)

lemma hasRole_run (t : Statement) (u : String) :
    (s.run t).2.hasRole u = match t with
      | .createUser r _ => s.hasRole u || u == r
      | .dropRole r => s.hasRole u && u != r
      | .createDatabase .. | .dropDatabase _ => s.hasRole u := by
  cases t with
  | createUser r p =>
    simp only [run]
    split_ifs with h
    · by_cases hu : u = r
      · simp [hu, h]
      · simp [hu]
    · simp [hasRole, List.contains_eq_mem, beq_eq_decide]
  | createDatabase d o =>
    simp only [run]
    split_ifs <;> rfl
  | dropDatabase d =>
    simp only [run]
    split_ifs <;> rfl
  | dropRole r =>
    simp only [run]
    split_ifs with h
    · simp [hasRole, List.contains_eq_mem, bne, beq_eq_decide]
    · by_cases hu : u = r
      · simp [hu, h]
      · simp [hu]

lemma hasDatabase_run (t : Statement) (d : String) :
    (s.run t).2.hasDatabase d = match t with
      | .createDatabase e o => s.hasDatabase d || (d == e && s.hasRole o)
      | .dropDatabase e => s.hasDatabase d && d != e
      | .createUser .. | .dropRole _ => s.hasDatabase d := by
  cases t with
  | createUser r p =>
    simp only [run]
    split_ifs <;> rfl
  | createDatabase e o =>
    simp only [run]
    split_ifs with h1 h2
    · simp_all
    · by_cases hd : d = e
      · simp [hd, h2]
      · simp [hd]
    · by_cases hd : d = e
      · simp_all [hasDatabase, Table.contains]
      · simp [hasDatabase, Table.contains, hd]
  | dropDatabase e =>
    simp only [run]
    split_ifs with h
    · by_cases hd : d = e
      · simp [hasDatabase, Table.contains, hd]
      · simp [hasDatabase, Table.contains, hd]
    · by_cases hd : d = e
      · simp [hd, h]
      · simp [hd]
  | dropRole r =>
    simp only [run]
    split_ifs <;> rfl

variable {s} in
lemma run_createUser_ok {u : String} (h : s.hasRole u = false) (p : String) :
    (s.run (.createUser u p)).1 = .ok () := by simp [run, h]

variable {s} in
lemma run_createDatabase_ok {d o : String} (ho : s.hasRole o = true)
    (hd : s.hasDatabase d = false) : (s.run (.createDatabase d o)).1 = .ok () := by
  simp [run, ho, hd]

/-- One statement, unless it is made to fail; then it has no effect. -/
def attempt (fault : Option Failure) (t : Statement) : Except Failure Unit × Server :=
  match fault with
  | some f => (.error f, s)
  | none => s.run t

@[simp] lemma attempt_some (f : Failure) (t : Statement) :
    s.attempt (some f) t = (.error f, s) := rfl

@[simp] lemma attempt_none (t : Statement) : s.attempt none t = s.run t := rfl

variable {s} in
/-- A role that is there is refused, if it gets that far. -/
lemma attempt_createUser_of_taken {u : String} (h : s.hasRole u = true) (fault : Option Failure)
    (p : String) :
    ∃ f, s.attempt fault (.createUser u p) = (.error f, s) ∧ (fault = none → f = takenRole u) := by
  cases fault with
  | none => exact ⟨takenRole u, by simp [run, h], fun _ => rfl⟩
  | some f => exact ⟨f, rfl, fun hf => by cases hf⟩

variable {s} in
/-- Without its owner no database is created. -/
lemma attempt_createDatabase_of_missing {o : String} (h : s.hasRole o = false)
    (fault : Option Failure) (d : String) :
    ∃ f, s.attempt fault (.createDatabase d o) = (.error f, s) := by
  cases fault with
  | none => exact ⟨missingRole o, by simp [run, h]⟩
  | some f => exact ⟨f, rfl⟩

/-! ### Names that go -/

variable {s} {t : Statement}

lemma eq_dropRole {u : String} (h : s.hasRole u = true) (hn : (s.run t).2.hasRole u = false) :
    t = .dropRole u := by
  rw [hasRole_run] at hn
  cases t with
  | createUser r p => simp [h] at hn
  | createDatabase d o => simp [h] at hn
  | dropDatabase d => simp [h] at hn
  | dropRole r =>
    have hu : u = r := by simpa [h] using hn
    rw [hu]

lemma eq_dropDatabase {d : String} (h : s.hasDatabase d = true)
    (hn : (s.run t).2.hasDatabase d = false) : t = .dropDatabase d := by
  rw [hasDatabase_run] at hn
  cases t with
  | createUser r p => simp [h] at hn
  | createDatabase e o => simp [h] at hn
  | dropRole r => simp [h] at hn
  | dropDatabase e =>
    have hd : d = e := by simpa [h] using hn
    rw [hd]

/-! ### Owners -/

lemma owner_run (s : Server) (t : Statement) (d : String) :
    (s.run t).2.databases.find? d = match t with
      | .createDatabase e o =>
        if d = e ∧ s.hasRole o = true ∧ s.hasDatabase e = false then some o
        else s.databases.find? d
      | .dropDatabase e => if d = e then none else s.databases.find? d
      | .createUser .. | .dropRole _ => s.databases.find? d := by
  cases t with
  | createUser r p =>
    simp only [run]
    split_ifs <;> rfl
  | createDatabase e o =>
    by_cases hr : s.hasRole o = true
    · by_cases hd : s.hasDatabase e = true
      · simp [run, hr, hd]
      · simp [run, hr, hd]
    · simp [run, hr]
  | dropDatabase e =>
    simp only [run]
    split_ifs with hd he he
    · simp [he]
    · simp [he]
    · rw [he]
      simpa [hasDatabase, Table.contains] using hd
    · rfl
  | dropRole r =>
    simp only [run]
    split_ifs <;> rfl

lemma owner_of_createDatabase {d o : String} (h : (s.run (.createDatabase d o)).1 = .ok ()) :
    (s.run (.createDatabase d o)).2.databases.find? d = some o := by
  simp only [run] at h
  split_ifs at h with hr hd
  rw [owner_run]
  simp_all

/-- A database that has come to have this owner was created for it. -/
lemma eq_createDatabase {d o : String} (h : s.databases.find? d ≠ some o)
    (hn : (s.run t).2.databases.find? d = some o) : t = .createDatabase d o := by
  rw [owner_run] at hn
  cases t with
  | createUser r p => exact absurd hn h
  | createDatabase e o' =>
    simp only at hn
    split_ifs at hn with hd
    · rw [hd.1, Option.some.inj hn]
    · exact absurd hn h
  | dropDatabase e =>
    simp only at hn
    split_ifs at hn
    exact absurd hn h
  | dropRole r => exact absurd hn h

/-- A database changes hands only by being dropped. -/
lemma eq_dropDatabase_of_owner {d o : String} (h : s.databases.find? d = some o)
    (hn : (s.run t).2.databases.find? d ≠ some o) : t = .dropDatabase d := by
  rw [owner_run] at hn
  cases t with
  | createUser r p => exact absurd h hn
  | createDatabase e o' =>
    simp only at hn
    split_ifs at hn with hd
    · obtain ⟨rfl, -, hnot⟩ := hd
      simp [hasDatabase, Table.contains, h] at hnot
    · exact absurd h hn
  | dropDatabase e =>
    simp only at hn
    split_ifs at hn with hd
    · rw [hd]
    · exact absurd h hn
  | dropRole r => exact absurd h hn

/-- A role that has come to be there was created. -/
lemma eq_createUser {u : String} (h : s.hasRole u = false) (hn : (s.run t).2.hasRole u = true) :
    ∃ p, t = .createUser u p := by
  rw [hasRole_run] at hn
  cases t with
  | createUser r p =>
    have hu : u = r := by simpa [h] using hn
    exact ⟨p, by rw [hu]⟩
  | createDatabase d o => simp [h] at hn
  | dropDatabase d => simp [h] at hn
  | dropRole r => simp [h] at hn

/-! ### Many statements -/

variable (s)

/-- The server after all statements, the failing ones included. -/
def after (ts : List Statement) : Server := ts.foldl (fun s t => (s.run t).2) s

lemma after_concat (ts : List Statement) (t : Statement) :
    s.after (ts ++ [t]) = ((s.after ts).run t).2 := by
  simp [after]

/-- `x` is among the statements at a place where `P` holds of those before, and `y` does not follow
it. -/
def Stands (P : List Statement → Prop) (x y : Statement) (ts : List Statement) : Prop :=
  ∃ l₁ l₂, ts = l₁ ++ x :: l₂ ∧ y ∉ l₂ ∧ P l₁

lemma not_stands_nil {P : List Statement → Prop} {x y : Statement} : ¬ Stands P x y [] := by
  rintro ⟨l₁, l₂, h, -⟩
  simp at h

lemma stands_concat {P : List Statement → Prop} {x y : Statement} {ts : List Statement}
    {t : Statement} :
    Stands P x y (ts ++ [t]) ↔ (t = x ∧ P ts) ∨ (Stands P x y ts ∧ t ≠ y) := by
  constructor
  · rintro ⟨l₁, l₂, h, hy, hp⟩
    rcases List.eq_nil_or_concat l₂ with rfl | ⟨l₂, t', rfl⟩
    · obtain ⟨rfl, ht⟩ := List.append_inj' h rfl
      exact .inl ⟨by simpa using ht, hp⟩
    · rw [List.concat_eq_append] at h hy
      rw [← List.cons_append, ← List.append_assoc] at h
      obtain ⟨rfl, ht⟩ := List.append_inj' h rfl
      obtain rfl : t = t' := by simpa using ht
      rw [List.mem_append, not_or, List.mem_singleton] at hy
      exact .inr ⟨⟨l₁, l₂, rfl, hy.1, hp⟩, Ne.symm hy.2⟩
  · rintro (⟨rfl, hp⟩ | ⟨⟨l₁, l₂, rfl, hy, hp⟩, hne⟩)
    · exact ⟨ts, [], rfl, List.not_mem_nil, hp⟩
    · exact ⟨l₁, l₂ ++ [t], by simp, by simp [hy, Ne.symm hne], hp⟩

/-- What stands must come after the last `y`. -/
lemma stands_append {P : List Statement → Prop} {x y : Statement} {ts us : List Statement}
    (hne : x ≠ y) (hy : y ∉ us) :
    Stands P x y (ts ++ y :: us) ↔ ∃ l₁ l₂, us = l₁ ++ x :: l₂ ∧ P (ts ++ y :: l₁) := by
  constructor
  · rintro ⟨l₁, l₂, h, hy', hp⟩
    rcases List.append_eq_append_iff.1 h with ⟨as, rfl, e⟩ | ⟨bs, rfl, e⟩
    · rcases as with _ | ⟨a, as⟩
      · exact absurd (List.cons.inj e).1.symm hne
      · obtain ⟨rfl, rfl⟩ := List.cons.inj e
        exact ⟨as, l₂, rfl, hp⟩
    · rcases bs with _ | ⟨b, bs⟩
      · exact absurd (List.cons.inj e).1 hne
      · obtain ⟨rfl, rfl⟩ := List.cons.inj e
        exact absurd (by simp) hy'
  · rintro ⟨l₁, l₂, rfl, hp⟩
    refine ⟨ts ++ y :: l₁, l₂, by simp, fun h => hy ?_, hp⟩
    simp [h]

lemma stands_of_mem {x y : Statement} {ts : List Statement} (hx : x ∈ ts) (hy : y ∉ ts) :
    Stands (fun _ => True) x y ts := by
  obtain ⟨l₁, l₂, rfl⟩ := List.append_of_mem hx
  exact ⟨l₁, l₂, rfl, fun h => hy (by simp [h]), trivial⟩

end Provisioner.Sql.Server
