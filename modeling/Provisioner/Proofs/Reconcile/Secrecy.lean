import Provisioner.Proofs.Reconcile.Redaction
import Provisioner.Proofs.World.Basic

/-!
Two runs that differ only in passwords.

If those around answer without regard to passwords, nobody can tell the runs apart by anything but the
statement that creates a role, and by the specs of the resources that are written.
-/

namespace Provisioner

/-- What is handed to those around. -/
inductive Delivery where
  /-- A statement to be executed. -/
  | statement (t : Sql.Statement)
  /-- A resource to be written. -/
  | resource (r : Resource)
  /-- An event about a resource. -/
  | event (r : Resource) (n : Notice)
  deriving DecidableEq

namespace Delivery

def redacted : Delivery → Delivery
  | .statement t => .statement t.redacted
  | .resource r => .resource r.redacted
  | .event r n => .event r.redacted n

/-- What people get to see of it. -/
def shown : Delivery → List String
  | .statement t => [t.masked, t.outline]
  | .resource r => [r.progress.text, r.statusMessage]
  | .event _ n => [n.severity.text, Notice.reason, n.message]

lemma shown_redacted (d : Delivery) : d.redacted.shown = d.shown := by
  cases d with
  | statement t => simp only [shown, redacted, t.masked_redacted, t.outline_redacted]
  | resource r | event r n => rfl

end Delivery

/-- Surroundings in which anyone can store a resource. -/
structure Setting (σ : Type) extends Surroundings σ where
  put : Resource → σ → Except Failure Key × σ

inductive Operation where
  | put (r : Resource)
  | reconcile (k : Key)
  | delete (r : Resource)
  /-- All statements are executed, whatever fails on the way. -/
  | execute (ts : List Sql.Statement)

inductive Response where
  | stored (k : Except Failure Key)
  | attempted (a : Attempt)
  | reported (x : Sql.Reading)
  deriving DecidableEq

/-- The same operation, but for the passwords. -/
inductive Operation.Alike : Operation → Operation → Prop
  | put {r s : Resource} (h : r.Alike s) : Alike (.put r) (.put s)
  | reconcile (k : Key) : Alike (.reconcile k) (.reconcile k)
  | delete {r s : Resource} (h : r.Alike s) : Alike (.delete r) (.delete s)
  | execute {ts us : List Sql.Statement}
    (h : ts.map Sql.Statement.redacted = us.map Sql.Statement.redacted) :
    Alike (.execute ts) (.execute us)

namespace Setting

variable {σ : Type} (e : Setting σ) (policy : Policy)

def act : Operation → σ → Response × σ
  | .put r, s =>
    let (k, s) := e.put r s
    (.stored k, s)
  | .reconcile k, s =>
    let (a, s) := e.reconcile policy k s
    (.attempted a, s)
  | .delete r, s =>
    let (x, s) := e.delete r s
    (.reported x.reading, s)
  | .execute ts, s =>
    let (x, s) := Sql.runAll e.execute ts {} s
    (.reported x.reading, s)

def perform : List Operation → σ → List Response × σ
  | [], s => ([], s)
  | o :: os, s =>
    let (x, s) := e.act policy o s
    let (xs, s) := perform os s
    (x :: xs, s)

/-- The same setting, with a note of all that is handed out. -/
def noting : Setting (σ × List Delivery) where
  lookup k s := e.lookup k s.1
  execute t s := ((e.execute t s.1).1, (e.execute t s.1).2, s.2 ++ [.statement t])
  write r s := ((e.write r s.1).1, (e.write r s.1).2, s.2 ++ [.resource r])
  publish r n s := (e.publish r n s.1, s.2 ++ [.event r n])
  put r s := ((e.put r s.1).1, (e.put r s.1).2, s.2)

/-- All that is handed out for these operations, in order. -/
def deliveries (os : List Operation) (s : σ) : List Delivery :=
  (e.noting.perform policy os (s, [])).2.2

/-! ### Taking notes changes nothing -/

lemma noting_extends : e.noting.Extends e.toSurroundings Prod.fst :=
  ⟨fun _ _ => rfl, fun _ _ => ⟨rfl, rfl⟩, fun _ _ => ⟨rfl, rfl⟩, fun _ _ _ => rfl⟩

lemma runAll_noting (ts : List Sql.Statement) (r : Sql.Report) (s : σ × List Delivery) :
    (Sql.runAll e.noting.execute ts r s).1 = (Sql.runAll e.execute ts r s.1).1 ∧
      (Sql.runAll e.noting.execute ts r s).2.1 = (Sql.runAll e.execute ts r s.1).2 := by
  induction ts generalizing r s with
  | nil => exact ⟨rfl, rfl⟩
  | cons t ts ih => exact ih _ _

lemma act_noting (o : Operation) (s : σ × List Delivery) :
    (e.noting.act policy o s).1 = (e.act policy o s.1).1 ∧
      (e.noting.act policy o s).2.1 = (e.act policy o s.1).2 := by
  cases o with
  | put r => exact ⟨rfl, rfl⟩
  | reconcile k =>
    obtain ⟨h₁, h₂⟩ := e.noting_extends.reconcile policy k s
    exact ⟨congrArg Response.attempted h₁, h₂⟩
  | delete r =>
    obtain ⟨h₁, h₂⟩ := e.runAll_noting
      ((Surroundings.cleanup r.spec).current :: (Surroundings.cleanup r.spec).rest) {} s
    exact ⟨congrArg (fun x : Sql.Report => Response.reported x.reading) h₁, h₂⟩
  | execute ts =>
    obtain ⟨h₁, h₂⟩ := e.runAll_noting ts {} s
    exact ⟨congrArg (fun x : Sql.Report => Response.reported x.reading) h₁, h₂⟩

/-- **Notes are silent**: with them the operations get the same responses and lead to the same state, so
what is noted is what is handed out without them. -/
theorem perform_noting (os : List Operation) (s : σ × List Delivery) :
    (e.noting.perform policy os s).1 = (e.perform policy os s.1).1 ∧
      (e.noting.perform policy os s).2.1 = (e.perform policy os s.1).2 := by
  induction os generalizing s with
  | nil => exact ⟨rfl, rfl⟩
  | cons o os ih =>
    obtain ⟨h₁, h₂⟩ := e.act_noting policy o s
    obtain ⟨h₃, h₄⟩ := ih (e.noting.act policy o s).2
    rw [h₂] at h₃ h₄
    exact ⟨congrArg₂ List.cons h₁ h₃, h₄⟩

/-! ### Blind surroundings -/

/-- Nobody around looks at passwords. `R` says when two states are the same but for them: then the same
is found, and the answers to what differs in a password alone are the same. -/
structure Blind (R : σ → σ → Prop) : Prop where
  lookup {s t : σ} (h : R s t) (k : Key) :
    Option.Rel Resource.Alike (e.lookup k s) (e.lookup k t)
  execute {s t : σ} (h : R s t) {u v : Sql.Statement} (hu : u.redacted = v.redacted) :
    (e.execute u s).1 = (e.execute v t).1 ∧ R (e.execute u s).2 (e.execute v t).2
  write {s t : σ} (h : R s t) {r r' : Resource} (hr : r.Alike r') :
    (e.write r s).1 = (e.write r' t).1 ∧ R (e.write r s).2 (e.write r' t).2
  publish {s t : σ} (h : R s t) {r r' : Resource} (hr : r.Alike r') (n : Notice) :
    R (e.publish r n s) (e.publish r' n t)
  put {s t : σ} (h : R s t) {r r' : Resource} (hr : r.Alike r') :
    (e.put r s).1 = (e.put r' t).1 ∧ R (e.put r s).2 (e.put r' t).2

namespace Blind

variable {e} {R : σ → σ → Prop} (he : e.Blind R)

include he

lemma proceed {x y : Stage} (hxy : x.Alike y) {s t : σ} (h : R s t) :
    (e.proceed x s).1.Alike (e.proceed y t).1 ∧ R (e.proceed x s).2 (e.proceed y t).2 := by
  cases hxy with
  | @execute r r' b c hr hb =>
    obtain ⟨ho, hR⟩ := he.execute h (congrArg Sql.Batch.current hb)
    exact ⟨by simpa only [Surroundings.proceed, ho] using Stage.alike_afterStatement hr hb _, hR⟩
  | write hr v =>
    obtain ⟨ho, hR⟩ := he.write h (hr.withStatus v.status)
    exact ⟨by simpa only [Surroundings.proceed, ho] using Stage.alike_afterWrite hr v _, hR⟩
  | publish hr a => exact ⟨.finished a, he.publish h hr _⟩
  | finished a => exact ⟨.finished a, h⟩

/-- An attempt ends the same way. -/
lemma carryOut {x y : Stage} (hxy : x.Alike y) {s t : σ} (h : R s t) :
    (e.carryOut x s).1 = (e.carryOut y t).1 ∧ R (e.carryOut x s).2 (e.carryOut y t).2 := by
  induction hn : x.weight using Nat.strongRecOn generalizing x y s t with
  | _ n ih =>
    subst hn
    obtain ⟨hnext, hR⟩ := he.proceed hxy h
    by_cases hx : ∃ a, x = .finished a
    · obtain ⟨a, rfl⟩ := hx
      cases hxy
      rw [Surroundings.carryOut, Surroundings.carryOut]
      exact ⟨rfl, h⟩
    · rw [← e.carryOut_proceed x, ← e.carryOut_proceed y]
      exact ih _ (e.weight_proceed s (not_exists.1 hx)) hnext hR rfl

lemma runAll {ts us : List Sql.Statement}
    (hts : ts.map Sql.Statement.redacted = us.map Sql.Statement.redacted) {x y : Sql.Report}
    (hxy : x.redacted = y.redacted) {s t : σ} (h : R s t) :
    (Sql.runAll e.execute ts x s).1.redacted = (Sql.runAll e.execute us y t).1.redacted ∧
      R (Sql.runAll e.execute ts x s).2 (Sql.runAll e.execute us y t).2 := by
  induction ts generalizing us x y s t with
  | nil =>
    obtain rfl := List.map_eq_nil_iff.1 hts.symm
    exact ⟨hxy, h⟩
  | cons u ts ih =>
    obtain ⟨v, us, rfl, hv, hus⟩ := List.map_eq_cons_iff.1 hts.symm
    obtain ⟨ho, hR⟩ := he.execute h hv.symm
    have hrecord : (x.record u (e.execute u s).1).redacted =
        (y.record v (e.execute v t).1).redacted := by
      rw [x.redacted_record, y.redacted_record, hxy, hv, ho]
    exact ih hus.symm hrecord hR

lemma runAll_reading {ts us : List Sql.Statement}
    (hts : ts.map Sql.Statement.redacted = us.map Sql.Statement.redacted) {s t : σ} (h : R s t) :
    (Sql.runAll e.execute ts {} s).1.reading = (Sql.runAll e.execute us {} t).1.reading ∧
      R (Sql.runAll e.execute ts {} s).2 (Sql.runAll e.execute us {} t).2 := by
  obtain ⟨hreport, hR⟩ := he.runAll hts (x := {}) (y := {}) rfl h
  refine ⟨?_, hR⟩
  rw [← Sql.Report.reading_redacted, hreport, Sql.Report.reading_redacted]

lemma act {o o' : Operation} (ho : o.Alike o') {s t : σ} (h : R s t) :
    (e.act policy o s).1 = (e.act policy o' t).1 ∧ R (e.act policy o s).2 (e.act policy o' t).2 := by
  cases ho with
  | put hr =>
    obtain ⟨hk, hR⟩ := he.put h hr
    exact ⟨congrArg Response.stored hk, hR⟩
  | reconcile k =>
    obtain ⟨ha, hR⟩ := he.carryOut (Stage.alike_start policy (he.lookup h k)) h
    exact ⟨congrArg Response.attempted ha, hR⟩
  | @delete r r' hr =>
    obtain ⟨hx, hR⟩ := he.runAll_reading
      (congrArg (fun b : Sql.Batch => (b.current :: b.rest).map Sql.Statement.redacted) hr.cleanup) h
    exact ⟨congrArg Response.reported hx, hR⟩
  | execute hts =>
    obtain ⟨hx, hR⟩ := he.runAll_reading hts h
    exact ⟨congrArg Response.reported hx, hR⟩

lemma perform {os os' : List Operation} (ho : List.Forall₂ Operation.Alike os os') {s t : σ}
    (h : R s t) :
    (e.perform policy os s).1 = (e.perform policy os' t).1 ∧
      R (e.perform policy os s).2 (e.perform policy os' t).2 := by
  induction ho generalizing s t with
  | nil => exact ⟨rfl, h⟩
  | cons hfirst _ ih =>
    obtain ⟨hx, hR⟩ := he.act policy hfirst h
    obtain ⟨hxs, hR⟩ := ih hR
    exact ⟨congrArg₂ List.cons hx hxs, hR⟩

/-- Blind surroundings whose notes are compared without passwords are blind. -/
lemma noting :
    e.noting.Blind fun s t =>
      R s.1 t.1 ∧ s.2.map Delivery.redacted = t.2.map Delivery.redacted where
  lookup h k := he.lookup h.1 k
  execute h _ _ hu := by
    obtain ⟨ho, hR⟩ := he.execute h.1 hu
    exact ⟨ho, hR, by simp [Setting.noting, h.2, Delivery.redacted, hu]⟩
  write h _ _ hr := by
    obtain ⟨ho, hR⟩ := he.write h.1 hr
    exact ⟨ho, hR, by simp [Setting.noting, h.2, Delivery.redacted, hr.redacted]⟩
  publish h _ _ hr n :=
    ⟨he.publish h.1 hr n, by simp [Setting.noting, h.2, Delivery.redacted, hr.redacted]⟩
  put h _ _ hr := by
    obtain ⟨hk, hR⟩ := he.put h.1 hr
    exact ⟨hk, hR, h.2⟩

end Blind

/-- **Passwords stay secret**: where nobody around looks at passwords, two sequences of operations that
differ only in passwords get the same responses and lead to the same state but for the passwords. What
is handed out is the same, too: the same statements but for the password of a new role, the same
resources with the same statuses but for the password in the spec, the same events. People are shown
the same of it. -/
theorem perform_discloses_nothing {R : σ → σ → Prop} (he : e.Blind R) {os os' : List Operation}
    (ho : List.Forall₂ Operation.Alike os os') {s t : σ} (h : R s t) :
    (e.perform policy os s).1 = (e.perform policy os' t).1 ∧
      R (e.perform policy os s).2 (e.perform policy os' t).2 ∧
      (e.deliveries policy os s).map Delivery.redacted =
        (e.deliveries policy os' t).map Delivery.redacted ∧
      (e.deliveries policy os s).map Delivery.shown =
        (e.deliveries policy os' t).map Delivery.shown := by
  obtain ⟨hresponses, hR⟩ := he.perform policy ho h
  obtain ⟨-, -, hdeliveries⟩ :=
    he.noting.perform policy ho (s := (s, [])) (t := (t, [])) ⟨h, rfl⟩
  refine ⟨hresponses, hR, hdeliveries, ?_⟩
  have hshown (ds : List Delivery) :
      ds.map Delivery.shown = (ds.map Delivery.redacted).map Delivery.shown := by
    simp [Delivery.shown_redacted]
  rw [hshown, hshown (e.deliveries policy os' t)]
  exact congrArg _ hdeliveries

end Setting

/-! ### The world in memory -/

namespace World

def setting : Setting World where
  toSurroundings := surroundings
  put := put

/-- The same world, but for the passwords of the resources. -/
structure Alike (w w' : World) : Prop where
  lookup (k : Key) : Option.Rel Resource.Alike (w.lookup k) (w'.lookup k)
  server : w.server = w'.server
  tracking : w.tracking = w'.tracking
  storesWrites : w.storesWrites = w'.storesWrites
  faults : w.faults = w'.faults
  writeFault : w.writeFault = w'.writeFault

lemma fault?_redacted (w : World) (t : Sql.Statement) : w.fault? t.redacted = w.fault? t := by
  unfold fault?
  rw [t.action_redacted]
  cases h : t.render? with
  | error f => rw [(t.refused_redacted f).2 h]
  | ok text =>
    cases h' : t.redacted.render? with
    | error f => cases h.symm.trans ((t.refused_redacted f).1 h')
    | ok text' => rfl

namespace Alike

variable {w w' : World}

/-- What is noted makes no difference. -/
lemma noting (h : w.Alike w') (j j' : Journal) :
    { w with journal := j }.Alike { w' with journal := j' } :=
  ⟨h.lookup, h.server, h.tracking, h.storesWrites, h.faults, h.writeFault⟩

lemma execute (h : w.Alike w') {u v : Sql.Statement} (hu : u.redacted = v.redacted) :
    (w.execute u).1 = (w'.execute v).1 ∧ (w.execute u).2.Alike (w'.execute v).2 := by
  have hfault : w.fault? u = w'.fault? v := by
    rw [← w.fault?_redacted, hu, ← w'.fault?_redacted, fault?, fault?, h.faults]
  have hrun : w'.server.run u = w'.server.run v := by
    rw [← w'.server.run_redacted, hu, w'.server.run_redacted]
  cases ht : w'.tracking with
  | true =>
    have hattempt : w.server.attempt (w.fault? u) u = w'.server.attempt (w'.fault? v) v := by
      rw [hfault, h.server]
      cases w'.fault? v with
      | none => exact hrun
      | some f => rfl
    rw [execute_eq ht, execute_eq (h.tracking.trans ht), hattempt]
    exact ⟨rfl, h.lookup, rfl, h.tracking, h.storesWrites, h.faults, h.writeFault⟩
  | false =>
    rw [execute_untracked ht, execute_untracked (h.tracking.trans ht), hfault]
    exact ⟨rfl, h.lookup, h.server, h.tracking, h.storesWrites, h.faults, h.writeFault⟩

lemma put (h : w.Alike w') {r r' : Resource} (hr : r.Alike r') :
    (w.put r).1 = (w'.put r').1 ∧ (w.put r).2.Alike (w'.put r').2 := by
  have hlookup (k : Key) : Option.Rel Resource.Alike ((w.put r).2.lookup k)
      ((w'.put r').2.lookup k) := by
    rw [lookup_put, lookup_put, hr.key]
    split_ifs
    · exact .some hr
    · exact h.lookup k
  unfold World.put at hlookup ⊢
  rw [hr.key] at hlookup ⊢
  cases hk : Key.ofResource r' with
  | error f => exact ⟨rfl, h⟩
  | ok k =>
    simp only [hk] at hlookup ⊢
    exact ⟨trivial, hlookup, h.server, h.tracking, h.storesWrites, h.faults, h.writeFault⟩

lemma write (h : w.Alike w') {r r' : Resource} (hr : r.Alike r') :
    (w.write r).1 = (w'.write r').1 ∧ (w.write r).2.Alike (w'.write r').2 :=
  write_related h h.writeFault h.storesWrites h.noting fun j j' => ((h.noting j j').put hr).2

end Alike

/-- No one in memory looks at passwords. -/
lemma setting_blind : setting.Blind Alike where
  lookup h := h.lookup
  execute h _ _ hu := h.execute hu
  write h _ _ hr := h.write hr
  publish h _ _ _ _ := h.noting _ _
  put h _ _ hr := h.put hr

/-! ### Two passwords for one role -/

/-- The same resource as `orders`, with another password. -/
def ordersAgain : Resource := { orders with spec := { orders.spec with password := "other" } }

lemma orders_alike : orders.Alike ordersAgain := ⟨rfl, by decide⟩

/-- It is stored, provisioned, deleted, and provisioned by hand. -/
def scene (r : Resource) : List Operation :=
  [.put r, .reconcile ⟨"shop", "orders"⟩, .delete r,
    .execute [.createUser r.spec.username r.spec.password, .dropRole "nobody"]]

lemma scene_alike {r r' : Resource} (h : r.Alike r') :
    List.Forall₂ Operation.Alike (scene r) (scene r') :=
  .cons (.put h) (.cons (.reconcile _) (.cons (.delete h) (.cons (.execute (by
    simp [Sql.Statement.redacted, h.username])) .nil)))

lemma alike_self (w : World) : w.Alike w where
  lookup k := by
    cases w.lookup k with
    | none => exact .none
    | some r => exact .some ⟨rfl, Iff.rfl⟩
  server := rfl
  tracking := rfl
  storesWrites := rfl
  faults := rfl
  writeFault := rfl

/-- Nobody can tell by the responses or by what is shown which of the passwords it was. -/
theorem perform_discloses_nothing_orders :
    let w : World := { tracking := true, storesWrites := true }
    orders.spec.password ≠ ordersAgain.spec.password ∧
      (setting.perform .hold (scene orders) w).1 =
        (setting.perform .hold (scene ordersAgain) w).1 ∧
      (setting.deliveries .hold (scene orders) w).map Delivery.shown =
        (setting.deliveries .hold (scene ordersAgain) w).map Delivery.shown := by
  intro w
  obtain ⟨hresponses, -, -, hshown⟩ := setting.perform_discloses_nothing .hold setting_blind
    (scene_alike orders_alike) w.alike_self
  exact ⟨by decide, hresponses, hshown⟩

end World

end Provisioner
