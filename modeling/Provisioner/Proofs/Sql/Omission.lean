import Provisioner.Proofs.Sql.Names

/-!
A server with the two names of a spec left out.

To statements that mention neither name it makes no difference whether the names are there, and the
statements of the spec itself make no difference to the rest of the server.
-/

namespace Provisioner

namespace Table

variable {κ ν : Type} [BEq κ] {t : Table κ ν} {j k : κ} {v : ν}

lemma erase_comm (t : Table κ ν) (j k : κ) : (t.erase j).erase k = (t.erase k).erase j := by
  simp only [erase, List.filter_filter, Bool.and_comm]

lemma erase_erase_self (t : Table κ ν) (k : κ) : (t.erase k).erase k = t.erase k := by
  simp [erase, List.filter_filter]

/-- What is not in the table need not be erased. -/
lemma erase_of_not_contains (h : t.contains k = false) : t.erase k = t := by
  obtain ⟨es⟩ := t
  have hnone : es.lookup k = none := by simpa [contains, find?] using h
  have hne : ∀ e ∈ es, (!(k == e.1)) = true := fun e he => List.lookup_eq_none_iff.1 hnone e he
  simp only [erase, List.filter_eq_self.2 hne]

variable [LawfulBEq κ]

lemma erase_insert_self : (t.insert k v).erase k = t.erase k := by
  simp [insert, erase, List.filter_filter]

lemma erase_insert_of_ne (h : j ≠ k) : (t.insert k v).erase j = (t.erase j).insert k v := by
  have hjk : (j == k) = false := by simpa using h
  simp [insert, erase, hjk, List.filter_filter, Bool.and_comm]

end Table

namespace Sql.Server

variable {sv : Server} {s : Spec} {t : Statement}

def without (sv : Server) (s : Spec) : Server where
  roles := sv.roles.filter (· != s.username)
  databases := sv.databases.erase s.database

lemma hasRole_without (u : String) :
    (sv.without s).hasRole u = (sv.hasRole u && u != s.username) := by
  simp [hasRole, without, List.contains_eq_mem, bne, beq_eq_decide]

lemma owner_without (d : String) : (sv.without s).databases.find? d =
    if d = s.database then none else sv.databases.find? d := by
  simp [without]

lemma hasDatabase_without (d : String) :
    (sv.without s).hasDatabase d = (sv.hasDatabase d && d != s.database) := by
  rw [hasDatabase, Table.contains, owner_without]
  by_cases h : d = s.database <;> simp [h, hasDatabase, Table.contains]

/-- There is nothing to leave out. -/
lemma without_of_free (hr : sv.hasRole s.username = false)
    (hd : sv.hasDatabase s.database = false) : sv.without s = sv := by
  have hroles : sv.roles.filter (· != s.username) = sv.roles := by
    refine List.filter_eq_self.2 fun u hu => ?_
    have hne : u ≠ s.username := by
      rintro rfl
      simp [hasRole, hu] at hr
    simpa using hne
  rw [without, hroles, Table.erase_of_not_contains hd]

/-- A statement that mentions neither name has the same outcome with and without them. -/
lemma run_without (h : s.Unmentioned t) :
    (sv.without s).run t = ((sv.run t).1, (sv.run t).2.without s) := by
  cases t with
  | createUser r p =>
    have hne : (r != s.username) = true := bne_iff_ne.2 h
    simp only [run, hasRole_without, hne, Bool.and_true]
    split_ifs
    · rfl
    · simp [without, hne]
  | createDatabase d o =>
    have hd : (d != s.database) = true := bne_iff_ne.2 h.1
    have ho : (o != s.username) = true := bne_iff_ne.2 h.2
    simp only [run, hasRole_without, hasDatabase_without, hd, ho, Bool.and_true]
    split_ifs
    · rfl
    · rfl
    · simp [without, Table.erase_insert_of_ne (Ne.symm h.1)]
  | dropDatabase d =>
    have hd : (d != s.database) = true := bne_iff_ne.2 h
    simp only [run, hasDatabase_without, hd, Bool.and_true]
    split_ifs
    · simp [without, sv.databases.erase_comm d]
    · rfl
  | dropRole r =>
    have hne : (r != s.username) = true := bne_iff_ne.2 h
    simp only [run, hasRole_without, hne, Bool.and_true]
    split_ifs
    · simp [without, List.filter_filter, Bool.and_comm]
    · rfl

/-- A statement of the spec makes no difference to the rest. -/
lemma without_run (h : t ∈ s.statements) : (sv.run t).2.without s = sv.without s := by
  simp only [Spec.statements, List.mem_cons, List.not_mem_nil, or_false] at h
  rcases h with rfl | rfl | rfl | rfl
  · simp only [run]
    split_ifs
    · rfl
    · simp [without]
  · simp only [run]
    split_ifs
    · rfl
    · rfl
    · simp [without, Table.erase_insert_self]
  · simp only [run]
    split_ifs
    · simp [without, Table.erase_erase_self]
    · rfl
  · simp only [run]
    split_ifs
    · simp [without, List.filter_filter]
    · rfl

/-- To drop both names is to leave them out. -/
lemma run_drops (hr : sv.hasRole s.username = true) (hd : sv.hasDatabase s.database = true) :
    let database := sv.run (.dropDatabase s.database)
    database.1 = .ok () ∧ database.2.run (.dropRole s.username) = (.ok (), sv.without s) := by
  have hdrop : sv.run (.dropDatabase s.database) =
      (.ok (), { sv with databases := sv.databases.erase s.database }) := by
    simp [run, hd]
  have hr' : hasRole { sv with databases := sv.databases.erase s.database } s.username = true := hr
  intro database
  simp only [database, hdrop]
  exact ⟨trivial, by simp only [run, hr', if_true, without]⟩

/-! ### All but two names -/

/-- Every role but one and every database but one is the same on both servers, and so are the owners. -/
structure AgreesBeyond (sv sv' : Server) (s : Spec) : Prop where
  role {u : String} (h : u ≠ s.username) : sv.hasRole u = sv'.hasRole u
  owner {d : String} (h : d ≠ s.database) : sv.databases.find? d = sv'.databases.find? d

lemma agreesBeyond_without (sv : Server) (s : Spec) : sv.AgreesBeyond (sv.without s) s where
  role h := by simp [hasRole_without, h]
  owner h := by simp [owner_without, h]

lemma AgreesBeyond.symm {sv' : Server} (h : sv.AgreesBeyond sv' s) : sv'.AgreesBeyond sv s :=
  ⟨fun hu => (h.role hu).symm, fun hd => (h.owner hd).symm⟩

end Sql.Server

end Provisioner
