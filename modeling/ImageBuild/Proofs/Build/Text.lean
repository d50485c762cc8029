import ImageBuild.Proofs.Build.Json
import ImageBuild.Proofs.Json.Text
import ImageBuild.Proofs.Store.Written

/-! Builds as texts: what is written of a build has a text, from which the build can be read again. -/

namespace ImageBuild

namespace Json

@[simp] theorem plain_string (s : String) : Plain (.string s) := trivial

@[simp] theorem plain_bool (b : Bool) : Plain (.bool b) := trivial

/-- Numbers that fit a word have a text. -/
theorem plain_ofNat {n : Nat} (fits : n < 2 ^ 64) : Plain (ofNat n) where
  integral := rfl
  exponent := rfl
  -- The only condition is the bound of 64 bits.
  fits := by
    change (if n < 2 ^ 64 then some (n : Int) else none).isSome = true
    rw [if_pos fits]
    rfl

@[simp] theorem plain_uint32 (n : UInt32) : Plain (ofNat n.toNat) :=
  plain_ofNat (Nat.lt_trans n.toNat_lt (by decide))

@[simp] theorem plain_uint64 (n : UInt64) : Plain (ofNat n.toNat) := plain_ofNat n.toNat_lt

@[simp] theorem plain_object (members : List (String × Json)) :
    Plain (.object members) ↔ MembersPlain members := Iff.rfl

@[simp] theorem membersPlain_nil : MembersPlain [] := trivial

@[simp] theorem membersPlain_cons (m : String × Json) (rest : List (String × Json)) :
    MembersPlain (m :: rest) ↔ Plain m.2 ∧ MembersPlain rest := Iff.rfl

@[simp] theorem membersPlain_append (l r : List (String × Json)) :
    MembersPlain (l ++ r) ↔ MembersPlain l ∧ MembersPlain r := by
  -- The induction is on the first list, whose members come first.
  induction l with
  | nil => simp
  | cons m rest ih => simp [ih, and_assoc]

@[simp] theorem membersPlain_field? {α : Type} (name : String) (value : Option α) (write : α → Json) :
    MembersPlain (field? name (value.map write)) ↔ ∀ a ∈ value, Plain (write a) := by
  cases value <;> simp [field?]

/-- An array has a text when all its items have one. -/
theorem plain_array_map {α : Type} {write : α → Json} {items : List α}
    (plain : ∀ a ∈ items, Plain (write a)) : Plain (.array (items.map write)) := by
  -- The induction is on the items, each of which is written by the same function.
  change AllPlain _
  induction items with
  | nil => trivial
  | cons a rest ih =>
    exact ⟨plain a List.mem_cons_self, ih fun o member => plain o (List.mem_cons_of_mem _ member)⟩

end Json

open Json

@[simp] theorem Duration.plain (d : Duration) : Plain d.toJson := trivial

@[simp] theorem Instant.plain (t : Instant) : Plain t.toJson := trivial

@[simp] theorem plain_textsToJson (d : Dict String String) : Plain (textsToJson d) := by
  -- The entries are generalized, since the induction is on them and not on the dictionary.
  unfold textsToJson
  generalize d.entries = entries
  induction entries with
  | nil => trivial
  | cons e rest ih => exact ⟨trivial, ih⟩

@[simp] theorem RegistrySpec.plain (r : RegistrySpec) : Plain r.toJson := by
  simp [toJson]

@[simp] theorem ResourceClaim.plain (c : ResourceClaim) : Plain c.toJson := by
  simp [toJson]

@[simp] theorem ResourceRequirements.plain (r : ResourceRequirements) : Plain r.toJson := by
  -- Claims are written as an array, limits and requests as objects of texts.
  simp only [toJson, plain_object, membersPlain_append, membersPlain_field?]
  exact ⟨⟨fun l _ => plain_array_map fun c _ => c.plain, fun l _ => plain_textsToJson l⟩,
    fun l _ => plain_textsToJson l⟩

@[simp] theorem Publication.plain (p : Publication) : MembersPlain p.toMembers := by
  simp [toMembers]

@[simp] theorem LayerCache.plain (c : LayerCache) : Plain c.toJson := by
  simp [toJson]

@[simp] theorem plain_flags (flags : List String) : MembersPlain (flagsToMembers flags) := by
  -- No flags are written as no member at all.
  cases flags with
  | nil => trivial
  | cons flag rest => exact ⟨plain_array_map fun s _ => plain_string s, trivial⟩

@[simp] theorem Task.plain (t : Task) : Plain t.toJson := by
  -- Both kinds of tasks are objects whose members are plain by the lemmas above.
  cases t with
  | kaniko task => simp [toJson, KanikoTask.toJson]
  | buildah task => simp [toJson, BuildahTask.toJson]

@[simp] theorem Recovery.plain (r : Recovery) : Plain r.toJson := by
  simp [toJson]

@[simp] theorem Failure.plain (f : Failure) : Plain f.toJson := by
  simp [toJson]

@[simp] theorem BuildSpec.plain (spec : BuildSpec) : Plain spec.toJson := by
  -- The tasks are an array, which the simp set does not look into.
  have tasks : Plain (.array (spec.tasks.map Task.toJson)) := plain_array_map fun t _ => t.plain
  simp [toJson, tasks]

@[simp] theorem BuildStatus.plain (status : BuildStatus) : Plain status.toJson := by
  simp [toJson, Phase.toJson]

/-- What is written of a build has a text. -/
theorem Build.plain (b : Build) : Plain b.toJson := by
  simp [toJson, Reference.toMembers]

/-- Every build can be read again from its text. -/
theorem Build.readsBack (b : Build) : b.ReadsBack := by
  -- Reading the text gives the document back, and reading the document gives the build.
  rw [ReadsBack, b.plain.read?_pretty]
  exact Build.inverse_json.read_write b

end ImageBuild
