import Provisioner.Proofs.Controller.Settling
import Provisioner.Proofs.Controller.Sound

/-!
Where the resources of a run come from, and for which of them an attempt was made.

Whatever is cached, reconciled or recorded was there at the beginning or was stored by someone, but
for its status. A worker executes statements only for a resource that it has looked up.
-/

namespace Provisioner

/-! ### Resources that are known -/

namespace View

/-- What is cached, what workers are busy with and what was recorded has the property. -/
structure Known (P : Resource → Prop) (v : View) : Prop where
  cached : ∀ j r, v.world.lookup j = some r → P r
  stage : ∀ i s, (v.worker i).stage? = some s → ∀ r, s.resource? = some r → P r
  recorded : ∀ r ∈ v.world.journal.updates, P r

variable {P : Resource → Prop} {v v' : View} {h : List Occurrence} {o : Option Occurrence}

/-- A property that has nothing to do with the status is kept if what is stored has it. -/
lemma Known.step (hv : v.Known P) (hP : ∀ r s, P r → P (r.withStatus s)) (ht : v.Step o v')
    (ho : ∀ r, o = some (.stored r) → P r) : v'.Known P := by
  refine ⟨fun j r hj => ?_, fun i s hi r hr => ?_, fun r hr => ?_⟩
  · rcases ht.lookup_cases hj with hold | ⟨-, he | ⟨i, r₀, d, hi, rfl⟩⟩
    · exact hv.cached j r hold
    · exact ho r he
    · exact hP r₀ d.status (hv.stage i (.write r₀ d) hi r₀ rfl)
  · rcases ht.resource_cases hi hr with ⟨s', hi', hr'⟩ | ⟨j, hl⟩
    · exact hv.stage i s' hi' r hr'
    · exact hv.cached j r hl
  · rcases ht.recorded_cases hr with hold | ⟨i, r₀, d, hi, rfl⟩
    · exact hv.recorded r hold
    · exact hP r₀ d.status (hv.stage i (.write r₀ d) hi r₀ rfl)

lemma Known.run (hv : v.Known P) (hP : ∀ r s, P r → P (r.withStatus s)) (hr : v.Run h v')
    (ho : ∀ r, .stored r ∈ h → P r) : v'.Known P := by
  induction hr with
  | refl => exact hv
  | snoc hr ht ih =>
    refine (ih fun r hm => ho r (List.mem_append_left _ hm)).step hP ht fun r hs => ?_
    exact ho r (List.mem_append_right _ (by simp [hs]))

end View

/-! ### Attempts -/

namespace Desk

variable {d d' : Desk} {o : Option Deed} {i : Nat} {r : Resource} {b : Sql.Batch}

/-- Who executes statements for a resource did so before, or has just looked the resource up. -/
lemma Step.executing (hs : d.Step o d') (h : (d'.worker i).stage? = some (.execute r b)) :
    (∃ b', (d.worker i).stage? = some (.execute r b')) ∨
    ∃ key k, o = some (.consulted i key) ∧ Key.parse key = .ok k ∧
      d.world.lookup k = some r ∧ Stage.start d.policy (some r) = .execute r b := by
  have before {j : Nat} {w : Worker} {d₁ : Desk} (hd : d₁.worker = d.worker)
      (h : ((d₁.occupy j w).worker i).stage? = some (.execute r b)) :
      (d.worker i).stage? = some (.execute r b) ∨ j = i ∧ w.stage? = some (.execute r b) := by
    rcases eq_or_ne i j with rfl | hne
    · rw [worker_occupy_self] at h
      exact .inr ⟨rfl, h⟩
    · rw [worker_occupy_of_ne _ hne, hd] at h
      exact .inl h
  cases hs with
  | aside | stored | removed | brokeWrites | queued | announced | rang | closed => exact .inl ⟨b, h⟩
  | started w hp hw => simp [Worker.stage?_of_key? (hw i)] at h
  | rested j w hj hw =>
    rcases before rfl h with hold | ⟨-, hnew⟩
    · exact .inl ⟨b, hold⟩
    · simp [Worker.stage?_of_key? hw] at hnew
  | handed | dropped | succeeded | died | retries | putOff | released =>
    rcases before rfl h with hold | ⟨-, hnew⟩
    · exact .inl ⟨b, hold⟩
    · cases hnew
  | @consulted j key k hj hk =>
    rcases before rfl h with hold | ⟨rfl, hnew⟩
    · exact .inl ⟨b, hold⟩
    · have hst : Stage.start d.policy (d.world.lookup k) = .execute r b := Option.some.inj hnew
      have hl : d.world.lookup k = some r := Stage.start_resource? (by rw [hst]; rfl)
      exact .inr ⟨key, k, rfl, hk, hl, by rw [← hl, hst]⟩
  | @executes j key r' b' hj =>
    rcases before rfl h with hold | ⟨rfl, hnew⟩
    · exact .inl ⟨b, hold⟩
    · obtain ⟨rfl, rfl⟩ := Stage.execute.inj (Option.some.inj hnew)
      exact .inl ⟨b', by rw [hj]; rfl⟩
  | @executed j key r' b' l hj =>
    rcases before rfl h with hold | ⟨rfl, hnew⟩
    · exact .inl ⟨b, hold⟩
    · obtain ⟨rfl, -⟩ := Stage.afterStatement_eq_execute (Option.some.inj hnew)
      exact .inl ⟨b', by rw [hj]; rfl⟩
  | writes j hj =>
    rcases before rfl h with hold | ⟨-, hnew⟩
    · exact .inl ⟨b, hold⟩
    · exact absurd (Option.some.inj hnew) (Stage.afterWrite_ne_execute _ _)
  | publishes j hj =>
    rcases before rfl h with hold | ⟨-, hnew⟩
    · exact .inl ⟨b, hold⟩
    · cases hnew

end Desk

namespace Controller

variable {ρ : Type}

/-- A worker looks the resource up, and sets out to provision it. -/
def Begins (c : Controller ρ) (a : Action) (r : Resource) : Prop :=
  ∃ i key k b, c.deed? a = some (.consulted i key) ∧ Key.parse key = .ok k ∧
    c.world.lookup k = some r ∧ Stage.start c.policy (some r) = .execute r b

variable [Quantity ρ]

/-- At some moment of the run a worker set out to provision the resource. -/
def Attempted (c : Controller ρ) (as : List Action) (r : Resource) : Prop :=
  c.Meets as fun c a _ => c.Begins a r

variable {c : Controller ρ} {as : List Action} {a : Action} {r : Resource}

lemma Attempted.concat (h : c.Attempted as r) (a : Action) : c.Attempted (as ++ [a]) r := by
  obtain ⟨before, b, later, rfl, hb⟩ := h
  exact ⟨before, b, later ++ [a], by simp, hb⟩

lemma Begins.attempted (h : (c.run as).Begins a r) : c.Attempted (as ++ [a]) r :=
  ⟨as, a, [], rfl, h⟩

/-- Statements are executed only for a resource for which an attempt was made. -/
lemma run_executing {i : Nat} {b : Sql.Batch} (hc : ∀ i, (c.worker i).stage? = none)
    (h : ((c.run as).worker i).stage? = some (.execute r b)) : c.Attempted as r := by
  induction as using List.reverseRecOn generalizing b with
  | nil =>
    rw [show c.run [] = c from rfl, hc i] at h
    cases h
  | append_singleton as a ih =>
    rw [run_append] at h
    rcases ((c.run as).step_desk a).executing h with ⟨b', hb⟩ | ⟨key, k, ho, hk, hl, hs⟩
    · exact (ih hb).concat a
    · exact Begins.attempted ⟨i, key, k, b, ho, hk, hl, hs⟩

end Controller

end Provisioner
