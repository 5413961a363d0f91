import Mathlib.Algebra.Order.BigOperators.Group.List
import Mathlib.Algebra.Order.Ring.Nat
import Provisioner.Resource.Key
import Provisioner.Table

/-!
A store that takes a resource only from someone who has seen what is stored.

Every change that the store accepts gets a version that no earlier state of that resource has had,
so a version says all about the state it stands for. A cache may be behind: what it shows is any of
the states that were stored at some time.
-/

namespace Provisioner

/-- How versions are given: a new one is none that the resource of that key has had. -/
structure Versioning where
  next : Key → List Resource → String
  fresh : ∀ k past r, r ∈ past → Key.ofResource r = .ok k →
    r.metadata.resourceVersion ≠ some (next k past)

/-- Each version is longer than all that were given before. -/
def Versioning.growing : Versioning where
  next _ past := String.ofList
    (List.replicate ((past.map fun r => (r.metadata.resourceVersion.getD "").length).sum + 1) '1')
  fresh k past r hr _ hv := by
    have hle : (r.metadata.resourceVersion.getD "").length ≤
        (past.map fun r => (r.metadata.resourceVersion.getD "").length).sum :=
      List.single_le_sum (by simp) _ (List.mem_map_of_mem hr)
    rw [hv, Option.getD_some, String.length_ofList, List.length_replicate] at hle
    omega

namespace Resource

/-- A copy with only the version replaced. -/
def withVersion (r : Resource) (version : String) : Resource :=
  { r with metadata := { r.metadata with resourceVersion := some version } }

lemma key_withVersion (r : Resource) (version : String) :
    Key.ofResource (r.withVersion version) = Key.ofResource r := rfl

lemma key_withStatus (r : Resource) (status : Status) :
    Key.ofResource (r.withStatus status) = Key.ofResource r := rfl

end Resource

/-- The store of the API server. -/
structure Registry where
  objects : Table Key Resource := {}
  /-- All that was ever stored. -/
  past : List Resource := []

namespace Registry

/-- Somebody else has changed the resource. -/
def conflict : Failure := .api (.refused { status := "Failure", reason := "Conflict", code := 409 })

def missing : Failure := .api (.refused { status := "Failure", reason := "NotFound", code := 404 })

/-- What a cache shows that is behind, or has nothing at all. -/
def earlier (s : Registry) (k : Key) (n : Nat) : Option Resource :=
  s.past[n]?.filter fun r => (Key.ofResource r).toOption = some k

def accept (v : Versioning) (k : Key) (r : Resource) (s : Registry) : Registry where
  objects := s.objects.insert k (r.withVersion (v.next k s.past))
  past := s.past ++ [r.withVersion (v.next k s.past)]

/-- A change from outside; it may be any. -/
def edit (v : Versioning) (r : Resource) (s : Registry) : Registry :=
  match Key.ofResource r with
  | .ok k => s.accept v k r
  | .error _ => s

def remove (k : Key) (s : Registry) : Registry := { s with objects := s.objects.erase k }

/-- The whole resource replaces what is stored, if it comes with the version of that. -/
def replace (v : Versioning) (r : Resource) (s : Registry) : Except Failure Unit × Registry :=
  match Key.ofResource r with
  | .error f => (.error f, s)
  | .ok k =>
    match s.objects.find? k with
    | none => (.error missing, s)
    | some old =>
      if r.metadata.resourceVersion = old.metadata.resourceVersion then (.ok (), s.accept v k r)
      else (.error conflict, s)

/-! ### Versions say all -/

structure Sound (s : Registry) : Prop where
  stored : ∀ k r, s.objects.find? k = some r → r ∈ s.past ∧ Key.ofResource r = .ok k
  distinct : ∀ k r r', r ∈ s.past → r' ∈ s.past → Key.ofResource r = .ok k →
    Key.ofResource r' = .ok k → r.metadata.resourceVersion = r'.metadata.resourceVersion → r = r'

lemma sound_empty : Sound {} where
  stored k r hr := by cases hr
  distinct k r r' hr := by cases hr

variable {s : Registry} {v : Versioning} {k : Key} {r : Resource}

lemma mem_past_of_earlier {n : Nat} (h : s.earlier k n = some r) : r ∈ s.past :=
  List.mem_of_getElem? (Option.filter_eq_some_iff.1 h).1

lemma Sound.accept (h : s.Sound) (hk : Key.ofResource r = .ok k) : (s.accept v k r).Sound where
  stored j r' hr' := by
    simp only [Registry.accept, Table.find?_insert] at hr' ⊢
    split_ifs at hr' with hj
    · obtain rfl := Option.some.inj hr'
      rw [beq_iff_eq.1 hj, Resource.key_withVersion]
      exact ⟨List.mem_append_right _ (List.mem_singleton_self _), hk⟩
    · exact ⟨List.mem_append_left _ (h.stored j r' hr').1, (h.stored j r' hr').2⟩
  distinct j r₁ r₂ h₁ h₂ hk₁ hk₂ hv := by
    have new {r' : Resource} (hr' : r' ∈ s.past) (hkr' : Key.ofResource r' = .ok j)
        (hkj : Key.ofResource (r.withVersion (v.next k s.past)) = .ok j) :
        r'.metadata.resourceVersion ≠ some (v.next k s.past) := by
      rw [Resource.key_withVersion, hk] at hkj
      obtain rfl := Except.ok.inj hkj
      exact v.fresh k s.past r' hr' hkr'
    simp only [Registry.accept, List.mem_append, List.mem_singleton] at h₁ h₂
    rcases h₁ with h₁ | rfl <;> rcases h₂ with h₂ | rfl
    · exact h.distinct j r₁ r₂ h₁ h₂ hk₁ hk₂ hv
    · exact absurd hv (new h₁ hk₁ hk₂)
    · exact absurd hv.symm (new h₂ hk₂ hk₁)
    · rfl

lemma Sound.edit (h : s.Sound) (r : Resource) : (s.edit v r).Sound := by
  unfold Registry.edit
  split
  · rename_i k hk
    exact h.accept hk
  · exact h

lemma Sound.remove (h : s.Sound) (k : Key) : (s.remove k).Sound where
  stored j r hr := by
    simp only [Registry.remove, Table.find?_erase] at hr
    split_ifs at hr
    exact h.stored j r hr
  distinct := h.distinct

/-- Whoever submits an earlier state with another status is heard exactly if it is still what is
stored. -/
lemma Sound.replace_cases (h : s.Sound) (v : Versioning) (hr : r ∈ s.past) (status : Status) :
    (∃ k, Key.ofResource r = .ok k ∧ s.objects.find? k = some r ∧
      s.replace v (r.withStatus status) = (.ok (), s.accept v k (r.withStatus status))) ∨
    ((∀ k, Key.ofResource r = .ok k → s.objects.find? k ≠ some r) ∧
      ∃ f, s.replace v (r.withStatus status) = (.error f, s)) := by
  unfold replace
  rw [Resource.key_withStatus]
  cases hk : Key.ofResource r with
  | error f => exact .inr ⟨nofun, f, rfl⟩
  | ok k =>
    cases hfind : s.objects.find? k with
    | none =>
      refine .inr ⟨fun j hj => ?_, missing, by simp [hfind]⟩
      rw [← Except.ok.inj hj, hfind]
      exact nofun
    | some old =>
      obtain ⟨hold, hkold⟩ := h.stored k old hfind
      simp only [hfind, Resource.withStatus_metadata]
      by_cases hversion : r.metadata.resourceVersion = old.metadata.resourceVersion
      · obtain rfl := h.distinct k r old hr hold hk hkold hversion
        exact .inl ⟨k, rfl, hfind, if_pos rfl⟩
      · refine .inr ⟨fun j hj hsome => hversion ?_, conflict, if_neg hversion⟩
        rw [← Except.ok.inj hj, hfind] at hsome
        rw [Option.some.inj hsome]

end Registry

end Provisioner
