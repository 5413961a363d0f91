import Mathlib.Data.List.Induction
import Provisioner.Proofs.Reconcile.Basic
import Provisioner.Proofs.Registry.Versions
import Provisioner.Proofs.World.Basic

/-!
Attempts that race with changes from outside.

Any number of attempts have their effects in any order, with changes of any kind between them, and a
cache that shows any earlier state. A status is written only where the attempt has seen what is
stored, so nothing else is overwritten, and what is stored as provisioned stays as it is.
-/

namespace Provisioner

structure Race where
  registry : Registry := {}
  /-- The attempts that are under way. -/
  attempts : Nat → Option Stage := fun _ => none

namespace Race

/-- What an attempt meets with, apart from versions. -/
structure Answers where
  /-- Which of the earlier states the cache shows, if there are so many. -/
  seen : Nat := 0
  /-- How the next statement ends. -/
  outcome : Except Failure Unit := .ok ()
  /-- Why a write does not get through. -/
  refusal : Option Failure := none

/-- The registry as an attempt meets with it. -/
def surroundings (v : Versioning) (a : Answers) : Surroundings Registry where
  lookup k g := g.earlier k a.seen
  execute _ g := (a.outcome, g)
  write r g :=
    match a.refusal with
    | some f => (.error f, g)
    | none => g.replace v r
  publish _ _ g := g

inductive Move where
  /-- Someone changes a resource, or creates it. -/
  | edit (r : Resource)
  | remove (k : Key)
  /-- An attempt begins with a look into the cache. -/
  | begin (i : Nat) (k : Key) (a : Answers)
  /-- An attempt has its next effect. -/
  | proceed (i : Nat) (a : Answers)

/-- The key whose resource is changed from outside. -/
def Move.edited? : Move → Option Key
  | .edit r => (Key.ofResource r).toOption
  | .remove k => some k
  | .begin .. | .proceed .. => none

def occupy (s : Race) (i : Nat) (stage : Option Stage) : Race :=
  { s with attempts := Function.update s.attempts i stage }

lemma attempts_occupy_self (s : Race) (i : Nat) (stage : Option Stage) :
    (s.occupy i stage).attempts i = stage :=
  Function.update_self ..

/-- A move that does not fit changes nothing. -/
def step (v : Versioning) (policy : Policy) (s : Race) : Move → Race
  | .edit r => { s with registry := s.registry.edit v r }
  | .remove k => { s with registry := s.registry.remove k }
  | .begin i k a =>
    match s.attempts i with
    | none => s.occupy i (some (.start policy ((surroundings v a).lookup k s.registry)))
    | some _ => s
  | .proceed i a =>
    match s.attempts i with
    | none => s
    | some (.finished _) => s.occupy i none
    | some stage =>
      let (stage, registry) := (surroundings v a).proceed stage s.registry
      { s with registry }.occupy i (some stage)

def run (v : Versioning) (policy : Policy) (s : Race) (ms : List Move) : Race :=
  ms.foldl (step v policy) s

/-! ### Attempts that nobody disturbs -/

variable {s : Race} {v : Versioning} {policy : Policy} {i : Nat}

lemma step_proceed {stage : Stage} (a : Answers) (hi : s.attempts i = some stage)
    (h : ∀ o, stage ≠ .finished o) :
    s.step v policy (.proceed i a) =
      { s with registry := ((surroundings v a).proceed stage s.registry).2 }.occupy i
        (some ((surroundings v a).proceed stage s.registry).1) := by
  cases stage with
  | finished o => exact absurd rfl (h o)
  | _ => simp [step, hi]

variable (v policy) in
lemma run_alone {stage : Stage} (a : Answers) (hi : s.attempts i = some stage) :
    ∃ n, s.run v policy (List.replicate n (.proceed i a)) =
      { s with registry := ((surroundings v a).carryOut stage s.registry).2 }.occupy i none := by
  induction hn : stage.weight using Nat.strongRecOn generalizing s stage with
  | _ n ih =>
    subst hn
    by_cases h : ∃ o, stage = .finished o
    · obtain ⟨o, rfl⟩ := h
      refine ⟨1, ?_⟩
      simp [run, step, hi, Surroundings.carryOut]
    · have h : ∀ o, stage ≠ .finished o := fun o ho => h ⟨o, ho⟩
      obtain ⟨n, hrun⟩ := ih _ ((surroundings v a).weight_proceed s.registry h)
        (attempts_occupy_self _ i _) rfl
      refine ⟨n + 1, ?_⟩
      rw [List.replicate_succ, run, List.foldl_cons, step_proceed a hi h]
      refine hrun.trans ?_
      simp only [occupy, Function.update_idem, Surroundings.carryOut_proceed]

/-- Without a move of anyone else, an attempt does to the registry what it does from beginning to
end. -/
theorem run_undisturbed (k : Key) (a : Answers) (hi : s.attempts i = none) :
    ∃ n, s.run v policy (.begin i k a :: List.replicate n (.proceed i a)) =
      { s with registry := ((surroundings v a).reconcile policy k s.registry).2 } := by
  obtain ⟨n, hrun⟩ := run_alone v policy a
    (s.attempts_occupy_self i (some (.start policy ((surroundings v a).lookup k s.registry))))
  refine ⟨n, ?_⟩
  have hnone : Function.update s.attempts i none = s.attempts := by
    rw [← hi, Function.update_eq_self]
  have hbegin : s.step v policy (.begin i k a) =
      s.occupy i (some (.start policy ((surroundings v a).lookup k s.registry))) := by
    simp [step, hi]
  rw [run, List.foldl_cons, hbegin]
  refine hrun.trans ?_
  simp only [occupy, Function.update_idem, hnone]
  rfl

/-! ### What attempts know -/

/-- What is to be written was stored at some time, and was not provisioned then. -/
structure Sound (s : Race) : Prop where
  registry : s.registry.Sound
  pending : ∀ i stage r, s.attempts i = some stage → stage.pending? = some r →
    r ∈ s.registry.past ∧ r.progress ≠ .provisioned

lemma sound_empty : Sound {} where
  registry := Registry.sound_empty
  pending i stage r hi := by cases hi

/-- The registry goes on, and forgets nothing. -/
lemma Sound.of_registry {g : Registry} (h : s.Sound) (hg : g.Sound)
    (hp : ∀ r ∈ s.registry.past, r ∈ g.past) : Sound { s with registry := g } where
  registry := hg
  pending i stage r hi hr := ⟨hp r (h.pending i stage r hi hr).1, (h.pending i stage r hi hr).2⟩

/-- An attempt goes on with a resource that it may write about, or with none. -/
lemma Sound.occupy (h : s.Sound) {stage? : Option Stage}
    (hs : ∀ stage r, stage? = some stage → stage.pending? = some r →
      r ∈ s.registry.past ∧ r.progress ≠ .provisioned) : (s.occupy i stage?).Sound where
  registry := h.registry
  pending := (Function.forall_update_iff s.attempts fun _ stage? => ∀ stage r,
    stage? = some stage → stage.pending? = some r →
      r ∈ s.registry.past ∧ r.progress ≠ .provisioned).2 ⟨hs, fun j _ => h.pending j⟩

/-! ### What an effect does to the registry -/

/-- An effect of an attempt changes nothing in the registry, or it gives the stored resource the
status that the attempt has decided on, if that is the resource which the attempt has seen. -/
lemma Sound.proceed_cases (h : s.Sound) (v : Versioning) (a : Answers) {stage : Stage}
    (hi : s.attempts i = some stage) :
    ((surroundings v a).proceed stage s.registry).2 = s.registry ∨
    ∃ r d k, stage = .write r d ∧ r.progress ≠ .provisioned ∧ Key.ofResource r = .ok k ∧
      s.registry.objects.find? k = some r ∧
      ((surroundings v a).proceed stage s.registry).2 =
        s.registry.accept v k (r.withStatus d.status) := by
  cases stage with
  | execute r b | publish r _ | finished _ => exact .inl rfl
  | write r d =>
    obtain ⟨hpast, hprogress⟩ := h.pending i _ r hi rfl
    simp only [Surroundings.proceed, surroundings]
    cases a.refusal with
    | some f => exact .inl rfl
    | none =>
      rcases h.registry.replace_cases v hpast d.status with
        ⟨k, hk, hfind, hreplace⟩ | ⟨-, f, hreplace⟩
      · exact .inr ⟨r, d, k, rfl, hprogress, hk, hfind, by rw [hreplace]⟩
      · exact .inl (by rw [hreplace])

/-- **Step**: an attempt that has its next effect does to the registry what that effect does. -/
lemma Sound.registry_proceed (h : s.Sound) (v : Versioning) (policy : Policy) (i : Nat)
    (a : Answers) :
    (s.step v policy (.proceed i a)).registry = s.registry ∨
    ∃ r d k, s.attempts i = some (.write r d) ∧ r.progress ≠ .provisioned ∧
      Key.ofResource r = .ok k ∧ s.registry.objects.find? k = some r ∧
      (s.step v policy (.proceed i a)).registry =
        s.registry.accept v k (r.withStatus d.status) := by
  simp only [step]
  split
  · exact .inl rfl
  · exact .inl rfl
  · rename_i stage _ hi
    rcases h.proceed_cases v a hi with he | ⟨r, d, k, rfl, hp, hk, hfind, he⟩
    · exact .inl he
    · exact .inr ⟨r, d, k, hi, hp, hk, hfind, he⟩

lemma Sound.step (h : s.Sound) (m : Move) : (s.step v policy m).Sound := by
  have accepts (k : Key) (r : Resource) :
      ∀ r' ∈ s.registry.past, r' ∈ (s.registry.accept v k r).past :=
    fun r' hr' => List.mem_append_left _ hr'
  cases m with
  | edit r =>
    refine h.of_registry (h.registry.edit r) fun r' hr' => ?_
    unfold Registry.edit
    split
    · exact accepts _ r r' hr'
    · exact hr'
  | remove k => exact h.of_registry (h.registry.remove k) fun r' hr' => hr'
  | begin i k a =>
    simp only [Race.step]
    split
    · refine h.occupy fun stage r hstage hr => ?_
      obtain rfl := Option.some.inj hstage
      obtain ⟨hlookup, hprogress⟩ := Stage.start_pending? hr
      exact ⟨Registry.mem_past_of_earlier hlookup, hprogress⟩
    · exact h
  | proceed i a =>
    simp only [Race.step]
    split
    · exact h
    · refine h.occupy fun stage r hstage => ?_
      cases hstage
    · rename_i stage _ hi
      have hpending (stage' : Stage) (r : Resource)
          (hstage : some ((surroundings v a).proceed stage s.registry).1 = some stage')
          (hr : stage'.pending? = some r) : r ∈ s.registry.past ∧ r.progress ≠ .provisioned := by
        obtain rfl := Option.some.inj hstage
        exact h.pending i stage r hi (Surroundings.proceed_pending? _ hr)
      rcases h.proceed_cases v a hi with he | ⟨r, d, k, -, -, hk, -, he⟩
      · rw [he]
        exact h.occupy hpending
      · have hg : Sound { s with registry := s.registry.accept v k (r.withStatus d.status) } :=
          h.of_registry (h.registry.accept hk) (accepts k _)
        rw [he]
        exact hg.occupy fun stage' r' hstage hr =>
          ⟨accepts k _ r' (hpending stage' r' hstage hr).1, (hpending stage' r' hstage hr).2⟩

/-- **Run**: attempts never write about anything else than what was stored at some time. -/
lemma Sound.run (h : s.Sound) (ms : List Move) : (s.run v policy ms).Sound := by
  induction ms generalizing s with
  | nil => exact h
  | cons m ms ih => exact ih (h.step m)

/-! ### What is provisioned stays -/

/-- **Step**: only a change from outside replaces a resource that is stored as provisioned. -/
lemma Sound.kept (h : s.Sound) {m : Move} {k : Key} {r : Resource}
    (hr : s.registry.objects.find? k = some r) (hp : r.progress = .provisioned)
    (hm : m.edited? ≠ some k) :
    (s.step v policy m).registry.objects.find? k = some r := by
  have elsewhere {j : Key} {r' : Resource} (hj : j ≠ k) :
      (s.registry.accept v j r').objects.find? k = some r := by
    have hkj : (k == j) = false := by simpa using hj.symm
    rw [Registry.accept, Table.find?_insert, hkj, hr]
    rfl
  cases m with
  | edit r' =>
    simp only [Race.step, Registry.edit]
    split
    · rename_i j hj
      refine elsewhere ?_
      rintro rfl
      exact hm (by simp [Move.edited?, hj, Except.toOption])
    · exact hr
  | remove j =>
    have hkj : (k == j) = false := by
      rw [beq_eq_false_iff_ne]
      rintro rfl
      exact hm rfl
    simp only [Race.step, Registry.remove, Table.find?_erase, hkj]
    exact hr
  | begin i j a =>
    simp only [Race.step]
    split <;> exact hr
  | proceed i a =>
    rcases h.registry_proceed v policy i a with
      he | ⟨r', d, j, -, hp', hj, hfind, he⟩
    · rw [he]
      exact hr
    · rw [he]
      refine elsewhere ?_
      rintro rfl
      rw [hfind] at hr
      obtain rfl := Option.some.inj hr
      exact hp' hp

/-- **Run**: as long as nobody outside changes it, a provisioned resource stays as it is. -/
lemma Sound.run_kept (h : s.Sound) {k : Key} {r : Resource} {ms : List Move}
    (hr : s.registry.objects.find? k = some r) (hp : r.progress = .provisioned)
    (hm : ∀ m ∈ ms, m.edited? ≠ some k) :
    (s.run v policy ms).registry.objects.find? k = some r := by
  induction ms generalizing s with
  | nil => exact hr
  | cons m ms ih =>
    obtain ⟨hm, hms⟩ := List.forall_mem_cons.1 hm
    exact ih (h.step m) (h.kept hr hp hm) hms

/-! ### All together -/

/-- Whatever changes are made meanwhile, and however old what an attempt has seen: what the attempt
writes differs from what is stored in its status and its version only, a write gets through exactly
if the attempt has seen what is stored, and what is stored as provisioned stays as it is until
someone outside changes it. -/
theorem run_protects (v : Versioning) (policy : Policy) (ms : List Move) :
    let s := run v policy {} ms
    (∀ i a, (s.step v policy (.proceed i a)).registry.objects = s.registry.objects ∨
      ∃ k old status, s.registry.objects.find? k = some old ∧
        (s.step v policy (.proceed i a)).registry.objects = s.registry.objects.insert k
          ((old.withStatus status).withVersion (v.next k s.registry.past))) ∧
    (∀ i a r d k, s.attempts i = some (.write r d) → Key.ofResource r = .ok k → a.refusal = none →
      (((surroundings v a).write (r.withStatus d.status) s.registry).1 = .ok () ↔
        s.registry.objects.find? k = some r)) ∧
    ∀ k r later, s.registry.objects.find? k = some r → r.progress = .provisioned →
      (∀ m ∈ later, m.edited? ≠ some k) →
      (s.run v policy later).registry.objects.find? k = some r := by
  intro s
  have hs : s.Sound := sound_empty.run ms
  refine ⟨fun i a => ?_, fun i a r d k hi hk ha => ?_, fun k r later hr hp hm =>
    hs.run_kept hr hp hm⟩
  · rcases hs.registry_proceed v policy i a with
      he | ⟨r, d, k, -, -, -, hfind, he⟩
    · exact .inl (by rw [he])
    · exact .inr ⟨k, r, d.status, hfind, by rw [he]; rfl⟩
  · have hpast := (hs.pending i _ r hi rfl).1
    simp only [surroundings, ha]
    rcases hs.registry.replace_cases v hpast d.status with
      ⟨j, hj, hfind, he⟩ | ⟨hstale, f, he⟩
    · obtain rfl := Except.ok.inj (hj.symm.trans hk)
      simp [he, hfind]
    · simp [he, hstale k hk]

/-- The same resource after someone has put a label on it. -/
def labelled : Resource :=
  { World.orders with metadata := { World.orders.metadata with labels := some [("team", "shop")] } }

/-- Two attempts are about to write, and the label has come after the first one has looked. -/
def racing : List Move :=
  [.edit World.orders, .begin 0 ⟨"shop", "orders"⟩ {}, .proceed 0 {}, .proceed 0 {},
    .edit labelled, .begin 1 ⟨"shop", "orders"⟩ { seen := 1 }, .proceed 1 {}, .proceed 1 {}]

def labelledDone : Resource :=
  (labelled.withStatus ⟨.provisioned, "successful"⟩).withVersion "1111"

/-- The first attempt does not get through, the second one does, and then nothing changes. -/
theorem run_protects_orders :
    ((surroundings .growing {}).write
      ((World.orders.withVersion "1").withStatus ⟨.provisioned, "successful"⟩)
      (run .growing .hold {} racing).registry).1 ≠ .ok () ∧
    ((surroundings .growing {}).write
      ((labelled.withVersion "11").withStatus ⟨.provisioned, "successful"⟩)
      (run .growing .hold {} racing).registry).1 = .ok () ∧
    ∀ later : List Move, (∀ m ∈ later, m.edited? ≠ some ⟨"shop", "orders"⟩) →
      ((run .growing .hold {} (racing ++ [.proceed 1 {}])).run .growing .hold
        later).registry.objects.find? ⟨"shop", "orders"⟩ = some labelledDone := by
  have hfirst : (run .growing .hold {} racing).attempts 0 = some (.write
      (World.orders.withVersion "1") ⟨⟨.provisioned, "successful"⟩, .ok .provisioned⟩) := rfl
  have hsecond : (run .growing .hold {} racing).attempts 1 = some (.write
      (labelled.withVersion "11") ⟨⟨.provisioned, "successful"⟩, .ok .provisioned⟩) := rfl
  have hlatest : (run .growing .hold {} racing).registry.objects.find? ⟨"shop", "orders"⟩ =
      some (labelled.withVersion "11") := by decide +kernel
  have hstored : (run .growing .hold {} (racing ++ [.proceed 1 {}])).registry.objects.find?
      ⟨"shop", "orders"⟩ = some labelledDone := by decide +kernel
  obtain ⟨-, hwritten, -⟩ := run_protects .growing .hold racing
  obtain ⟨-, -, hkept⟩ := run_protects .growing .hold (racing ++ [.proceed 1 {}])
  refine ⟨fun hok => ?_, (hwritten 1 {} _ _ _ hsecond rfl rfl).2 hlatest,
    fun later hl => hkept _ _ later hstored rfl hl⟩
  have hstale := (hwritten 0 {} _ _ ⟨"shop", "orders"⟩ hfirst rfl rfl).1 hok
  rw [hlatest] at hstale
  exact absurd hstale (by decide +kernel)

end Race

end Provisioner
