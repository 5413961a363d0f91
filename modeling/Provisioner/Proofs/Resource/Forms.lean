import Provisioner.Proofs.Resource.Fields

/-!
Reading and writing resources as a normalisation.

JSON says the same thing in many ways: members that nobody asks for, arrays instead of objects, words
that stand for one progress, fields left out. What the encoder writes is one of these ways. It is read
back as it was, and whatever else is accepted settles to it.
-/

namespace Provisioner

/-- How values of one type stand in JSON. -/
structure Form (α : Type) where
  write : α → Json
  read : Json → Decode.Result α
  /-- JSON without the members that are no fields. -/
  trim : Json → Json := id
  /-- A value with its numbers in their ranges. -/
  Fits : α → Prop := fun _ => True

namespace Form

variable {α : Type} {f : Form α}

/-- What is read from JSON, in the form in which it is written. -/
def normal (f : Form α) (j : Json) : Decode.Result Json := (f.read j).map f.write

structure Normalises (f : Form α) : Prop where
  /-- A value is read back from what is written of it. -/
  read_write : ∀ a, f.Fits a → f.read (f.write a) = .ok a
  /-- The normal form of what is accepted has the same value. -/
  read_normal : ∀ j k, f.normal j = .ok k → f.read k = f.read j
  /-- It is its own normal form. -/
  normal_normal : ∀ j k, f.normal j = .ok k → f.normal k = .ok k
  /-- Members that are no fields have no say, neither in the value nor in what is wrong. -/
  read_trim : ∀ j, f.read (f.trim j) = f.read j

lemma Normalises.of (read_write : ∀ a, f.Fits a → f.read (f.write a) = .ok a)
    (fits : ∀ j a, f.read j = .ok a → f.Fits a) (read_trim : ∀ j, f.read (f.trim j) = f.read j) :
    f.Normalises := by
  have key {j k : Json} (h : f.normal j = .ok k) :
      ∃ a, f.read j = .ok a ∧ k = f.write a ∧ f.read k = .ok a := by
    cases ha : f.read j with
    | error m => simp [normal, ha, Except.map] at h
    | ok a =>
      have hk : f.write a = k := by simpa [normal, ha, Except.map] using h
      exact ⟨a, rfl, hk.symm, hk ▸ read_write a (fits j a ha)⟩
  refine ⟨read_write, fun j k h => ?_, fun j k h => ?_, read_trim⟩
  · obtain ⟨a, hj, -, hk⟩ := key h
    rw [hk, hj]
  · obtain ⟨a, -, rfl, hk⟩ := key h
    rw [normal, hk]
    rfl

/-- An array is read as an object, its elements as the fields of these names in their order. There are
at least `least` elements, and no more than fields. -/
def InOrder (f : Form α) (fields : List String) (least : Nat) : Prop :=
  ∀ js a, f.read (.array js) = .ok a ↔
    least ≤ js.length ∧ js.length ≤ fields.length ∧ f.read (.object (fields.zip js)) = .ok a

/-- A field that is left out has this value. -/
def Defaults (f : Form α) (name : String) (value : Json) : Prop :=
  ∀ ms : Json.Members, ms.get? name = none →
    f.read (.object ms) = f.read (.object ((name, value) :: ms))

/-! ### Progress -/

def progress : Form Progress where
  write := Encode.progress
  read := Decode.progress

lemma progress_normalises : progress.Normalises :=
  .of (fun p _ => congrArg Except.ok (Progress.ofText_text p)) (fun _ _ _ => trivial) fun _ => rfl

/-- Progress is read from a word, or from the name of the only member of an object. -/
lemma read_progress_iff {j : Json} {p : Progress} :
    Decode.progress j = .ok p ↔ ∃ s, (j = .string s ∨ j = .object [(s, .null)]) ∧ p = .ofText s := by
  constructor
  · intro h
    unfold Decode.progress at h
    split at h
    · next s => exact ⟨s, .inl rfl, by simpa using h.symm⟩
    · next s v =>
      cases v with
      | null => exact ⟨s, .inr rfl, by simpa [Decode.unit, Except.map] using h.symm⟩
      | _ => simp [Decode.unit, Except.map] at h
    · cases h
    · cases h
  · rintro ⟨s, rfl | rfl, rfl⟩ <;> rfl

/-! ### Status and spec -/

/-- An object without the members that are none of these fields. -/
def trimTo (fields : List String) : Json → Json
  | .object ms => .object (Json.Members.only fields ms)
  | j => j

/-- A reader that asks objects for these fields only does not notice the trimming. -/
lemma read_trimTo {read : Json → Decode.Result α} {fields : List String}
    (h : ∀ ms, read (.object (Json.Members.only fields ms)) = read (.object ms)) (j : Json) :
    read (trimTo fields j) = read j := by
  cases j with
  | object ms => exact h ms
  | _ => rfl

def status : Form Status where
  write := Encode.status
  read := Decode.status
  trim := trimTo ["state", "message"]

lemma status_normalises : status.Normalises := by
  have hread (s : Status) : Decode.status (Encode.status s) = .ok s := by
    have hp : Decode.progress (Encode.progress s.progress) = .ok s.progress :=
      progress_normalises.read_write s.progress trivial
    calc Decode.status (Encode.status s)
        = (Decode.progress (Encode.progress s.progress)).map some >>= fun p =>
            .ok ⟨p.getD .unprovisioned, s.message⟩ := rfl
      _ = .ok s := by rw [hp]; rfl
  refine .of (fun s _ => hread s) (fun _ _ _ => trivial) (read_trimTo fun ms => ?_)
  simp (disch := decide) only [status, Decode.status, Decode.member_only]

lemma read_status_object {ms : Json.Members} {s : Status} :
    Decode.status (.object ms) = .ok s ↔
      (∃ p, Decode.member Decode.progress ms "state" = .ok p ∧ p.getD .unprovisioned = s.progress) ∧
        ∃ m, Decode.member Decode.string ms "message" = .ok m ∧ m.getD "" = s.message := by
  obtain ⟨progress, message⟩ := s
  simp only [Decode.status, Decode.bind_eq_ok_iff, Decode.pure_eq_ok_iff, Status.mk.injEq]
  constructor
  · rintro ⟨m, hm, p, hp, ep, em⟩
    exact ⟨⟨p, hp, ep⟩, m, hm, em⟩
  · rintro ⟨⟨p, hp, ep⟩, m, hm, em⟩
    exact ⟨m, hm, p, hp, ep, em⟩

lemma status_inOrder : status.InOrder ["state", "message"] 0 := by
  intro js s
  have place {i : Nat} {name : String} (hi : ["state", "message"][i]? = some name) :=
    Json.Members.get?_zip (by decide) hi js
  change Decode.status (.array js) = .ok s ↔ _ ∧ _ ∧ Decode.status (.object _) = .ok s
  rw [read_status_object, Decode.status, ← place (i := 0) rfl, ← place (i := 1) rfl]
  simp only [Decode.bind_eq_ok_iff, Decode.getD_eq_ok_iff, Decode.atMost_eq_ok_iff,
    Decode.pure_eq_ok_iff]
  constructor
  · rintro ⟨p, hp, m, hm, _, hn, rfl⟩
    exact ⟨Nat.zero_le _, hn, hp, hm⟩
  · rintro ⟨-, hn, hp, hm⟩
    exact ⟨_, hp, _, hm, (), hn, rfl⟩

lemma status_defaults_state : status.Defaults "state" (Encode.progress .unprovisioned) := by
  intro ms h
  change Decode.status (.object ms) = Decode.status (.object _)
  simp (disch := decide) only [Decode.status, Decode.member_cons_self, Decode.member_cons_of_ne,
    Decode.member_of_none h]
  rfl

lemma status_defaults_message : status.Defaults "message" (.string "") := by
  intro ms h
  change Decode.status (.object ms) = Decode.status (.object _)
  simp (disch := decide) only [Decode.status, Decode.member_cons_self, Decode.member_cons_of_ne,
    Decode.member_of_none h]
  rfl

def spec : Form Spec where
  write := Encode.spec
  read := Decode.spec
  trim := trimTo ["username", "password", "database"]

lemma spec_normalises : spec.Normalises := by
  refine .of (fun _ _ => rfl) (fun _ _ _ => trivial) (read_trimTo fun ms => ?_)
  simp (disch := decide) only [spec, Decode.spec, Decode.member_only]

lemma read_spec_object {ms : Json.Members} {s : Spec} :
    Decode.spec (.object ms) = .ok s ↔
      Decode.member Decode.string ms "username" = .ok (some s.username) ∧
        Decode.member Decode.string ms "password" = .ok (some s.password) ∧
        Decode.member Decode.string ms "database" = .ok (some s.database) := by
  obtain ⟨username, password, database⟩ := s
  simp only [Decode.spec, Decode.bind_eq_ok_iff, Decode.present_eq_ok_iff, Decode.pure_eq_ok_iff,
    Spec.mk.injEq]
  constructor
  · rintro ⟨_, hd, _, hp, _, hu, _, rfl, _, rfl, _, rfl, rfl, rfl, rfl⟩
    exact ⟨hu, hp, hd⟩
  · rintro ⟨hu, hp, hd⟩
    exact ⟨_, hd, _, hp, _, hu, _, rfl, _, rfl, _, rfl, rfl, rfl, rfl⟩

lemma spec_inOrder : spec.InOrder ["username", "password", "database"] 3 := by
  intro js s
  have place {i : Nat} {name : String} (hi : ["username", "password", "database"][i]? = some name) :=
    Json.Members.get?_zip (by decide) hi js
  change Decode.spec (.array js) = .ok s ↔ _ ∧ _ ∧ Decode.spec (.object _) = .ok s
  rw [read_spec_object, Decode.spec]
  simp only [Decode.member_eq_ok_some_iff, place (i := 0) rfl, place (i := 1) rfl,
    place (i := 2) rfl, Decode.bind_eq_ok_iff, Decode.element_eq_ok_iff, Decode.atMost_eq_ok_iff,
    Decode.pure_eq_ok_iff]
  constructor
  · rintro ⟨_, hu, _, hp, _, ⟨d, hd, ed⟩, _, hn, rfl⟩
    exact ⟨(List.getElem?_eq_some_iff.1 hd).1, hn, hu, hp, d, hd, ed⟩
  · rintro ⟨-, hn, hu, hp, hd⟩
    exact ⟨_, hu, _, hp, _, hd, (), hn, rfl⟩

/-! ### Metadata -/

/-- The fields of metadata, also those that the operator does not keep. -/
def metadataFields : List String :=
  ["annotations", "creationTimestamp", "deletionGracePeriodSeconds", "deletionTimestamp", "finalizers",
    "generateName", "generation", "labels", "managedFields", "name", "namespace", "ownerReferences",
    "resourceVersion", "selfLink", "uid"]

/-- A generation is a signed word of 64 bits, and no JSON integer is too small for it. -/
def metadata : Form Metadata where
  write := Encode.metadata
  read := Decode.metadata
  trim := trimTo metadataFields
  Fits m := ∀ g ∈ m.generation, g ≤ Decimal.maxInt64

lemma read_write_metadata (m : Metadata) (h : metadata.Fits m) :
    Decode.metadata (Encode.metadata m) = .ok m := by
  rw [Encode.metadata]
  generalize hfields :
    [("annotations", m.annotations.map Encode.map), _, _, _, _, _, _, _, _] = fields
  have hn : (fields.map Prod.fst).Nodup := by simp [← hfields]
  change Decode.metadata (.object (Json.Members.compacted fields)) = _
  rw [Decode.metadata,
    Decode.nullable_map hn "annotations" m.annotations (hfields ▸ rfl),
    Decode.nullable_list hn "finalizers" m.finalizers (hfields ▸ rfl),
    Decode.nullable_text hn "generateName" m.generateName (hfields ▸ rfl),
    Decode.nullable_int64 hn "generation" m.generation h (hfields ▸ rfl),
    Decode.nullable_map hn "labels" m.labels (hfields ▸ rfl),
    Decode.nullable_text hn "name" m.name (hfields ▸ rfl),
    Decode.nullable_text hn "namespace" m.scope (hfields ▸ rfl),
    Decode.nullable_text hn "resourceVersion" m.resourceVersion (hfields ▸ rfl),
    Decode.nullable_text hn "uid" m.uid (hfields ▸ rfl)]
  rfl

lemma fits_of_read_metadata {j : Json} {m : Metadata} (h : Decode.metadata j = .ok m) :
    metadata.Fits m := by
  cases j with
  | object ms =>
    rw [Decode.metadata] at h
    simp only [Decode.bind_eq_ok_iff] at h
    -- the generation is the fourth of the fields
    obtain ⟨_, -, _, -, _, -, generation, hg, _, -, _, -, _, -, _, -, _, -, h⟩ := h
    cases h
    exact Decode.le_of_nullable_int64 hg
  | _ => cases h

lemma metadata_normalises : metadata.Normalises := by
  refine .of read_write_metadata (fun _ _ => fits_of_read_metadata) (read_trimTo fun ms => ?_)
  simp (disch := decide) only [metadata, Decode.metadata, Decode.nullable_only]

/-! ### Resources -/

/-- The value of a field of a resource, trimmed as its form is. -/
def trimField : String → Json → Json
  | "metadata" => metadata.trim
  | "spec" => spec.trim
  | "status" => status.trim
  | _ => id

/-- An array too short for a resource is left as it is. -/
def trimResource : Json → Json
  | .object ms =>
    .object (Json.Members.mapValues trimField (Json.Members.only ["metadata", "spec", "status"] ms))
  | .array (m :: s :: t :: js) => .array (metadata.trim m :: spec.trim s :: status.trim t :: js)
  | j => j

def resource : Form Resource where
  write := Encode.resource
  read := Decode.resource
  trim := trimResource
  Fits r := metadata.Fits r.metadata

lemma optional_trim_status (j : Json) :
    Decode.optional Decode.status (status.trim j) = Decode.optional Decode.status j := by
  cases j with
  | object ms => exact congrArg (Except.map some) (status_normalises.read_trim (.object ms))
  | _ => rfl

lemma read_resource_object {ms : Json.Members} {r : Resource} :
    Decode.resource (.object ms) = .ok r ↔
      Decode.member Decode.metadata ms "metadata" = .ok (some r.metadata) ∧
        Decode.member Decode.spec ms "spec" = .ok (some r.spec) ∧
        Decode.nullable Decode.status ms "status" = .ok r.status := by
  obtain ⟨metadata, spec, status⟩ := r
  simp only [Decode.resource, Decode.bind_eq_ok_iff, Decode.present_eq_ok_iff,
    Decode.pure_eq_ok_iff, Resource.mk.injEq]
  constructor
  · rintro ⟨_, hm, _, hs, _, ht, _, rfl, _, rfl, rfl, rfl, rfl⟩
    exact ⟨hm, hs, ht⟩
  · rintro ⟨hm, hs, ht⟩
    exact ⟨_, hm, _, hs, _, ht, _, rfl, _, rfl, rfl, rfl, rfl⟩

lemma read_write_resource (r : Resource) (h : resource.Fits r) :
    Decode.resource (Encode.resource r) = .ok r := by
  have hmetadata : Decode.metadata (Encode.metadata r.metadata) = .ok r.metadata :=
    read_write_metadata r.metadata h
  have hspec : Decode.spec (Encode.spec r.spec) = .ok r.spec :=
    spec_normalises.read_write r.spec trivial
  have hstatus : ∀ s ∈ r.status, Decode.optional Decode.status (Encode.status s) = .ok (some s) :=
    fun s _ => congrArg (Except.map some) (status_normalises.read_write s trivial)
  rw [Encode.resource]
  generalize hfields : [("apiVersion", some (Json.string apiVersion)), _, _, _, _] = fields
  have hn : (fields.map Prod.fst).Nodup := by simp [← hfields]
  change Decode.resource (.object (Json.Members.compacted fields)) = _
  exact read_resource_object.2
    ⟨Decode.member_compacted hn "metadata" hmetadata (hfields ▸ rfl),
      Decode.member_compacted hn "spec" hspec (hfields ▸ rfl),
      Decode.nullable_compacted hn "status" Encode.status hstatus (hfields ▸ rfl)⟩

lemma resource_inOrder : resource.InOrder ["metadata", "spec", "status"] 3 := by
  intro js r
  have place {i : Nat} {name : String} (hi : ["metadata", "spec", "status"][i]? = some name) :=
    Json.Members.get?_zip (by decide) hi js
  change Decode.resource (.array js) = .ok r ↔ _ ∧ _ ∧ Decode.resource (.object _) = .ok r
  rw [read_resource_object, Decode.resource]
  simp only [Decode.member_eq_ok_some_iff, place (i := 0) rfl, place (i := 1) rfl,
    Decode.bind_eq_ok_iff, Decode.element_eq_ok_iff, Decode.atMost_eq_ok_iff, Decode.pure_eq_ok_iff]
  constructor
  · rintro ⟨_, hm, _, hs, _, ⟨t, ht, et⟩, _, hn, rfl⟩
    exact ⟨(List.getElem?_eq_some_iff.1 ht).1, hn, hm, hs,
      (Decode.nullable_eq_optional ((place (i := 2) rfl).trans ht)).trans et⟩
  · rintro ⟨hleast, hn, hm, hs, ht⟩
    have h₂ : js[2]? = some js[2] := List.getElem?_eq_getElem hleast
    rw [Decode.nullable_eq_optional ((place (i := 2) rfl).trans h₂)] at ht
    exact ⟨_, hm, _, hs, _, ⟨_, h₂, ht⟩, (), hn, rfl⟩

lemma resource_defaults_status : resource.Defaults "status" .null := by
  intro ms h
  change Decode.resource (.object ms) = Decode.resource (.object _)
  simp (disch := decide) only [Decode.resource, Decode.nullable, Decode.member_cons_self,
    Decode.member_cons_of_ne, Decode.member_of_none h]
  rfl

lemma fits_of_read_resource {j : Json} {r : Resource} (h : Decode.resource j = .ok r) :
    resource.Fits r := by
  have object {ms : Json.Members} (h : Decode.resource (.object ms) = .ok r) : resource.Fits r := by
    obtain ⟨hm, -⟩ := read_resource_object.1 h
    obtain ⟨k, -, hk⟩ := Decode.member_eq_ok_some_iff.1 hm
    exact fits_of_read_metadata hk
  cases j with
  | object ms => exact object h
  | array js => exact object ((resource_inOrder js r).1 h).2.2
  | _ => cases h

lemma read_trim_resource (j : Json) : Decode.resource (trimResource j) = Decode.resource j := by
  unfold trimResource
  split
  · next ms =>
    rw [Decode.resource, Decode.resource, Decode.member_mapValues metadata_normalises.read_trim,
      Decode.member_mapValues spec_normalises.read_trim, Decode.nullable,
      Decode.member_mapValues optional_trim_status, ← Decode.nullable]
    simp (disch := decide) only [Decode.member_only, Decode.nullable_only]
  · next m s t js =>
    have hm : Decode.metadata (metadata.trim m) = Decode.metadata m := metadata_normalises.read_trim m
    have hs : Decode.spec (spec.trim s) = Decode.spec s := spec_normalises.read_trim s
    simp [Decode.resource, Decode.element, Decode.atMost, hm, hs, optional_trim_status]
  · rfl

lemma resource_normalises : resource.Normalises :=
  .of read_write_resource (fun _ _ => fits_of_read_resource) read_trim_resource

/-- **Normalisation**: to read a resource or a part of it and to write it again is a normalisation.
Progress is read from words, and a word that is not known says that nothing is provisioned. An array
reads as the object of its fields, and where a part of a status or the whole of it is left out, as if
the default had been written. -/
theorem forms_normalise :
    (progress.Normalises ∧ status.Normalises ∧ spec.Normalises ∧ resource.Normalises) ∧
      (∀ j p, progress.read j = .ok p ↔ ∃ s, (j = .string s ∨ j = .object [(s, .null)]) ∧
        p = if s = "provisioned" then .provisioned else if s = "error" then .error
          else .unprovisioned) ∧
      (status.InOrder ["state", "message"] 0 ∧ spec.InOrder ["username", "password", "database"] 3 ∧
        resource.InOrder ["metadata", "spec", "status"] 3) ∧
      status.Defaults "state" (.string "unprovisioned") ∧ status.Defaults "message" (.string "") ∧
        resource.Defaults "status" .null :=
  ⟨⟨progress_normalises, status_normalises, spec_normalises, resource_normalises⟩,
    fun _ _ => read_progress_iff, ⟨status_inOrder, spec_inOrder, resource_inOrder⟩,
    status_defaults_state, status_defaults_message, resource_defaults_status⟩

/-- A status as some other program may leave it settles to the written form. -/
example : status.normal (.object [("since", .integer 3), ("state", .object [("pending", .null)])]) =
    .ok (.object [("message", .string ""), ("state", .string "unprovisioned")]) := rfl

end Form

end Provisioner
