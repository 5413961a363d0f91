import Mathlib.Data.List.Induction
import Provisioner.Proofs.Watch.Coherence
import Provisioner.Watch.Client

/-!
The streams of events that a client can produce.

A list may begin at any time, and what it had delivered is then of no account. Resources are listed
only while a list is under way, and changed or removed only while none is.
-/

namespace Provisioner

namespace Event

/-- Whether a list is under way behind an event, if the event can come at all. -/
def next? : Bool → Event → Option Bool
  | _, .listBegins => some true
  | true, .listed _ => some true
  | true, .listEnds => some false
  | false, .changed _ | false, .removed _ => some false
  | _, _ => none

/-- What a list has delivered, behind an event. -/
def gather (rs : List Resource) : Event → List Resource
  | .listBegins => []
  | .listed r => rs ++ [r]
  | _ => rs

end Event

namespace Watch

/-- Whether a list is under way, in a stream that a client can produce. -/
def listing? (es : List Event) : Option Bool := es.foldlM Event.next? false

/-- What has been listed since a list last began. -/
def gathered (es : List Event) : List Resource := es.foldl Event.gather []

/-- What the list says last about an identity. -/
def latest? (es : List Event) (k : Ref) : Option Resource :=
  (gathered es).reverse.find? fun r => Ref.of? r == some k

variable {w : Watch} {es : List Event} {e : Event} {k : Ref}

lemma listing?_snoc : listing? (es ++ [e]) = (listing? es).bind (Event.next? · e) := by
  rw [listing?, List.foldlM_append]
  simp [listing?]

lemma listing?_append {b c : Bool} (h : listing? es = some b) (he : Event.next? b e = some c) :
    listing? (es ++ [e]) = some c := by
  rw [listing?_snoc, h]
  exact he

@[simp] lemma latest?_listBegins : latest? (es ++ [.listBegins]) k = none := by
  simp [latest?, gathered, Event.gather]

lemma latest?_listed {r : Resource} :
    latest? (es ++ [.listed r]) k = if Ref.of? r = some k then some r else latest? es k := by
  by_cases h : Ref.of? r = some k <;> simp [latest?, gathered, Event.gather, h]

/-! ### Event after event -/

lemma deliverAll_append (es fs : List Event) :
    w.deliverAll (es ++ fs) = ((w.deliverAll es).1 ++ ((w.deliverAll es).2.deliverAll fs).1,
      ((w.deliverAll es).2.deliverAll fs).2) := by
  induction es generalizing w with
  | nil => rfl
  | cons e es ih => simp [deliverAll, ih]

lemma after_append (es fs : List Event) : after (es ++ fs) = ((after es).deliverAll fs).2 := by
  rw [after, deliverAll_append]
  rfl

lemma after_snoc (es : List Event) (e : Event) : after (es ++ [e]) = ((after es).deliver e).2 :=
  after_append es [e]

lemma receiving_deliver : (w.deliver e).2.receiving = w.receiving := by
  unfold deliver
  split_ifs
  · rfl
  · cases refOf? e with
    | none => rfl
    | some k =>
      simp only
      split_ifs <;> rfl

lemma receiving_after (es : List Event) : (after es).receiving = true := by
  induction es using List.reverseRecOn with
  | nil => rfl
  | append_singleton es e ih => rw [after_snoc, receiving_deliver, ih]

/-- Either the event is applied, or nothing comes of it and the watch does not go on. -/
lemma deliver_after_cases (es : List Event) (e : Event) :
    (∃ k, refOf? e = some k ∧ (after es).stopped = false ∧
      (after es).deliver e = (after es).apply k e) ∨
    ((after es).deliver e).1 = [] ∧ ((after es).deliver e).2.store = (after es).store ∧
      ((after es).deliver e).2.stopped = true := by
  cases hs : (after es).stopped with
  | true => exact .inr (by simp [deliver, hs])
  | false =>
    cases hk : refOf? e with
    | none => exact .inr (by simp [deliver, hs, hk])
    | some k => exact .inl ⟨k, rfl, rfl, deliver_eq hs (receiving_after es) hk⟩

end Watch

/-! ### The client -/

namespace Client

open Watch

variable {es new : List Event} {phase phase' : Phase}

lemma listing?_page (h : listing? es = some true) (rs : List Resource) :
    listing? (es ++ rs.map .listed) = some true := by
  induction rs generalizing es with
  | nil => simpa using h
  | cons r rs ih =>
    have hr : listing? (es ++ [.listed r]) = some true := listing?_append h rfl
    simpa using ih hr

lemma listing?_readLine (h : listing? es = some false) (s : String) :
    listing? (es ++ (readLine s).1) = some ((readLine s).2 == .listing) := by
  have begins : listing? (es ++ [.listBegins]) = some true := listing?_append h rfl
  have nothing : listing? (es ++ []) = some false := by rwa [List.append_nil]
  unfold readLine
  split
  · unfold follow
    split_ifs
    · exact listing?_append h rfl
    · exact begins
  · unfold follow
    split_ifs
    · exact listing?_append h rfl
    · exact begins
  · split_ifs
    · exact begins
    · exact nothing
  · exact nothing
  · exact nothing

lemma listing?_readLines (h : listing? es = some false) (ss : List String) :
    listing? (es ++ (readLines ss).1) = some ((readLines ss).2 == .listing) := by
  induction ss generalizing es with
  | nil =>
    rw [readLines, List.append_nil]
    exact h
  | cons s ss ih =>
    have hs := listing?_readLine h s
    rw [readLines]
    rcases hr : readLine s with ⟨new, _ | opened⟩ <;> rw [hr] at hs
    · exact hs
    · have hl : listing? (es ++ new ++ (readLines ss).1) = some ((readLines ss).2 == .listing) :=
        ih hs
      rwa [List.append_assoc] at hl

/-- What comes of a move follows the stream, and the phase says whether a list is under way. -/
lemma listing?_respond (h : listing? es = some (phase == .listing)) {m : Move}
    (hm : respond? phase m = some (new, phase')) :
    listing? (es ++ new) = some (phase' == .listing) := by
  have begins : listing? (es ++ [.listBegins]) = some true := listing?_append h rfl
  unfold respond? at hm
  split at hm
  · have hp := listing?_page h
    rw [Option.some.injEq, turnPage] at hm
    split at hm
    · cases hm
      exact begins
    · rename_i rs _
      split_ifs at hm <;> cases hm
      · exact hp rs
      · exact begins
      · rw [← List.append_assoc]
        exact listing?_append (hp rs) rfl
  · cases hm
    exact begins
  · rename_i s
    have hl := listing?_readLines h (s.splitOn "\n")
    rwa [Option.some.inj hm] at hl
  · cases hm
    rw [List.append_nil]
    exact h
  · cases hm
    rw [List.append_nil]
    exact h
  · cases hm

lemma move?_stream {c c' : Client} {m : Move} {ns : List Notification}
    (hc : listing? es = some (c.phase == .listing) ∧ c.watch = after es)
    (hm : c.move? m = some (ns, c')) :
    ∃ new, listing? (es ++ new) = some (c'.phase == .listing) ∧
      c'.watch = after (es ++ new) := by
  unfold move? at hm
  split_ifs at hm
  obtain ⟨⟨new, phase⟩, hr, he⟩ := Option.map_eq_some_iff.1 hm
  cases he
  exact ⟨new, listing?_respond hc.1 hr, by rw [after_append, hc.2]⟩

/-- **A client's stream**: whatever the server does, the client's watch is one that has taken the
events of a stream, and a list is under way in it exactly while the client is listing. -/
theorem moves_stream {scope : Option String} {ms : List Move} {c : Client}
    (h : ms.foldlM (fun c m => (move? c m).map Prod.snd) { scope } = some c) :
    ∃ es, listing? es = some (c.phase == .listing) ∧ c.watch = after es := by
  induction ms using List.reverseRecOn generalizing c with
  | nil =>
    cases h
    exact ⟨[.listBegins], rfl, rfl⟩
  | append_singleton ms m ih =>
    rw [List.foldlM_append, Option.bind_eq_bind, Option.bind_eq_some_iff] at h
    obtain ⟨b, hb, hm⟩ := h
    obtain ⟨es, hes⟩ := ih hb
    obtain ⟨ns, hm⟩ : ∃ ns, b.move? m = some (ns, c) := by simpa using hm
    obtain ⟨new, hn⟩ := move?_stream hes hm
    exact ⟨es ++ new, hn⟩

end Client

end Provisioner
