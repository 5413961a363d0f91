import Provisioner.Proofs.Controller.Sound

/-!
What is done about a deletion, from beginning to end.

Whoever takes up a deletion executes both statements of its clean-up, in order, before the next one is
taken up. So what somebody has done about deletions is one whole errand after the other, but for the
statements that are still to come.
-/

namespace Provisioner

open Occurrence

inductive Errand where
  /-- The deletion is taken up. -/
  | took (o : Resource)
  /-- The statement is through, whatever came of it. -/
  | executed (t : Sql.Statement)
  deriving DecidableEq

/-- All that is done about a deletion: the database is dropped, and then the role. -/
def Resource.errands (o : Resource) : List Errand :=
  [.took o, .executed (.dropDatabase o.spec.database), .executed (.dropRole o.spec.username)]

lemma Resource.errands_eq_cleanup (o : Resource) :
    o.errands = .took o :: (Surroundings.cleanup o.spec).remaining.map .executed := rfl

namespace Occurrence

/-- What `e` does about deletions. -/
def errand? (e : Executor) : Occurrence → Option Errand
  | .took e' o => if e' = e then some (.took o) else none
  | .completed e' l => if e' = e then some (.executed l.statement) else none
  | .stored _ | .broke _ => none

def errands (e : Executor) (h : List Occurrence) : List Errand := h.filterMap (errand? e)

lemma errands_append (e : Executor) (g h : List Occurrence) :
    errands e (g ++ h) = errands e g ++ errands e h := List.filterMap_append

end Occurrence

namespace Handling

/-- The statements of the clean-up that are not through. -/
def pending : Handling → List Sql.Statement
  | .free => []
  | .cleaning b | .running b _ => b.remaining

lemma pending_after (b : Sql.Batch) (outcome : Except Failure Unit) :
    (after b outcome).pending = b.rest := by
  unfold after
  split
  · rename_i b' hb
    exact (Sql.Batch.advance?_eq_some hb).1.symm
  · rename_i hb
    exact (Sql.Batch.advance?_eq_none.1 hb).symm

end Handling

namespace View

variable {v v' : View} {h : List Occurrence} {o : Option Occurrence} {e : Executor}

/-- With the statements that are still to come, what `e` has done are whole errands. -/
def Tended (e : Executor) (h : List Occurrence) (v : View) : Prop :=
  errands e h ++ (v.handling e).pending.map .executed = (deletions e h).flatMap Resource.errands

lemma handling_handle_self (v : View) (e : Executor) (x : Handling) :
    (v.handle e x).handling e = x :=
  Function.update_self ..

lemma handling_handle_of_ne (v : View) {e e' : Executor} (h : e ≠ e') (x : Handling) :
    (v.handle e' x).handling e = v.handling e :=
  Function.update_of_ne h ..

lemma Tended.of_handle {e' : Executor} {x : Handling} (world : World) (hv : v.Tended e h)
    (ho : e' ≠ e → errands e o.toList = [] ∧ deletions e o.toList = [])
    (hx : e' = e → errands e h ++ (errands e o.toList ++ x.pending.map .executed) =
      (deletions e h).flatMap Resource.errands ++
        (deletions e o.toList).flatMap Resource.errands) :
    Tended e (h ++ o.toList) ({ v with world }.handle e' x) := by
  rw [Tended, errands_append, deletions_append, List.flatMap_append, List.append_assoc]
  by_cases he : e' = e
  · rw [← hx he, he, handling_handle_self]
  · obtain ⟨h₁, h₂⟩ := ho he
    rw [h₁, h₂, handling_handle_of_ne _ (Ne.symm he), List.nil_append, List.flatMap_nil,
      List.append_nil]
    exact hv

lemma Tended.of_elsewhere (hv : v.Tended e h) (hh : v'.handling = v.handling)
    (ho : errands e o.toList = [] ∧ deletions e o.toList = []) : v'.Tended e (h ++ o.toList) := by
  rw [Tended, errands_append, deletions_append, ho.1, ho.2, List.append_nil, List.append_nil, hh]
  exact hv

/-- **Step**: the executor takes up a deletion with nothing to do, and has then both statements before
it; each statement that is through is the first of them. -/
lemma Tended.step (hv : v.Tended e h) (hs : v.Sound h) (he : ∀ i, e ≠ .worker i)
    (ht : v.Step o v') : v'.Tended e (h ++ o.toList) := by
  cases ht with
  | took e' d hfree =>
    refine hv.of_handle v.world (fun hne => ?_) ?_
    · simp [errands, errand?, deletions, deletion?, hne]
    · rintro rfl
      have hold : errands e' h = (deletions e' h).flatMap Resource.errands := by
        simpa [Tended, hfree, Handling.pending] using hv
      rw [hold]
      simp [errands, errand?, deletions, deletion?, Handling.pending, Resource.errands_eq_cleanup]
  | cleans e' b hb =>
    refine hv.of_handle _ (fun _ => ⟨rfl, rfl⟩) ?_
    rintro rfl
    rw [Tended, hb] at hv
    rw [← hv]
    simp [errands, deletions, Handling.pending]
  | cleaned e' b l hb =>
    refine hv.of_handle _ (fun hne => ?_) ?_
    · simp [errands, errand?, deletions, deletion?, hne]
    · rintro rfl
      have hl : l.statement = b.current := hs.launch e' b l hb
      rw [Tended, hb] at hv
      rw [← hv, Handling.pending_after]
      simp [errands, errand?, deletions, deletion?, Handling.pending, Sql.Batch.remaining, hl]
  | executed i key r b l hi =>
    refine hv.of_elsewhere rfl ⟨?_, rfl⟩
    simp [errands, errand?, (he i).symm]
  | _ => exact hv.of_elsewhere rfl ⟨rfl, rfl⟩

lemma Tended.run {g : List Occurrence} (hv : v.Tended e g) (hs : v.Sound g) (he : ∀ i, e ≠ .worker i)
    (hr : v.Run h v') : v'.Tended e (g ++ h) := by
  induction hr with
  | refl => simpa using hv
  | snoc hr ht ih =>
    rw [← List.append_assoc]
    exact ih.step (hs.run hr) he ht

end View

namespace Controller

variable {ρ : Type} [Quantity ρ]

/-- In every run, who is in the middle of nothing has finished all errands that were begun. -/
theorem run_tended (policy : Policy) (limiter : Limiter ρ String) (world : World) (as : List Action)
    {e : Executor} (he : ∀ i, e ≠ .worker i)
    (hfree : ((opening policy limiter world).run as).handling e = .free) :
    let h := (opening policy limiter world).history as
    errands e h = (deletions e h).flatMap Resource.errands := by
  intro h
  have hopening : (opening policy limiter world).view.Tended e [] := by
    cases e <;> rfl
  have ht : ((opening policy limiter world).run as).view.Tended e h :=
    hopening.run (sound_opening policy limiter world) he (run_view (orderly_opening _ _ _) as)
  rw [View.Tended, show ((opening policy limiter world).run as).view.handling e = .free from hfree]
    at ht
  simpa [Handling.pending] using ht

end Controller

end Provisioner
