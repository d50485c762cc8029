import ImageBuild.Task.Json
import ImageBuild.Proofs.Platform.Json

/-! Nothing of a task is lost when it is written as JSON, also inside other values. -/

namespace ImageBuild

/-- Among members of different names the last of a name is the only one. -/
theorem Json.lastRecord?_bind {α : Type} {names : List String} {members : List (String × Json)}
    {make : Record → Option α} {a : α} (distinct : (namesOf members).Nodup)
    (made : ∀ r, (∀ name ∈ names, r.get? name = Record.get? ⟨members⟩ name) → make r = some a) :
    (lastRecord? names (.object members)).bind make = some a := by
  -- With distinct names the last member of a name is the first one too.
  rw [lastRecord?, Option.bind_some]
  refine made _ fun name known => ?_
  rw [Record.get?_reverse (distinct.sublist (List.filter_sublist.map _)),
    Record.get?_filter members known]

theorem ResourceClaim.inverse_json : Json.Inverse ResourceClaim.ofJson? ResourceClaim.toJson where
  read_write c := by
    rw [ofJson?, toJson]
    refine Json.lastRecord?_bind (by simp) fun fields found => ?_
    -- The name is always written, though its reader would do without.
    have name : fields.optional "name" Json.string? = some (some c.name) :=
      Json.Record.optional_of_get? Json.inverse_string ((found _ (by decide)).trans (by simp))
    have request : fields.optional "request" Json.string? = some c.request :=
      Json.Record.optional_of_get? Json.inverse_string ((found _ (by decide)).trans (by simp))
    rw [name, request]
    rfl
  write_ne_null _ := nofun

theorem ResourceRequirements.inverse_json :
    Json.Inverse ResourceRequirements.ofJson? ResourceRequirements.toJson where
  read_write r := by
    rw [ofJson?, toJson]
    -- All three members are optional, and repeated ones would be read from the last.
    refine Json.lastRecord?_bind (by simp [List.nodup_append', List.disjoint_left]) fun fields found => ?_
    have claims : fields.optional "claims" (Json.list? ResourceClaim.ofJson?) = some r.claims :=
      Json.Record.optional_of_get? ResourceClaim.inverse_json.list
        ((found _ (by decide)).trans (by simp))
    have limits : fields.optional "limits" textsOfJson? = some r.limits :=
      Json.Record.optional_of_get? inverse_texts ((found _ (by decide)).trans (by simp))
    have requests : fields.optional "requests" textsOfJson? = some r.requests :=
      Json.Record.optional_of_get? inverse_texts ((found _ (by decide)).trans (by simp))
    rw [claims, limits, requests]
    rfl
  write_ne_null _ := nofun

theorem LayerCache.inverse_json : Json.Inverse LayerCache.ofJson? LayerCache.toJson where
  -- Both members are optional and written under names of their own.
  read_write c := by
    rw [ofJson?, toJson]
    refine Json.record?_bind (by simp [List.nodup_append', List.disjoint_left]) fun fields found => ?_
    have enabled : fields.optional "enabled" Json.bool? = some c.enabled :=
      Json.Record.optional_of_get? Json.inverse_bool ((found _ (by decide)).trans (by simp))
    have volumeClaim : fields.optional "persistentVolumeClaim" Json.string? = some c.volumeClaim :=
      Json.Record.optional_of_get? Json.inverse_string ((found _ (by decide)).trans (by simp))
    rw [enabled, volumeClaim]
    rfl
  write_ne_null _ := nofun

namespace Publication

@[simp] theorem namesOf_toMembers (p : Publication) : Json.namesOf p.toMembers =
    "contextDir" :: Json.namesOf (Json.field? "baseImage" (p.baseImage.map .string)) ++
      ["image", "registry"] := by
  simp [toMembers]

/-- A publication is read from the members that it is written as, whatever else is there. -/
theorem ofRecord?_of_get? {r : Json.Record} {p : Publication}
    (found : ∀ name ∈ Task.commonNames, name ≠ "name" →
      r.get? name = Json.Record.get? ⟨p.toMembers⟩ name) :
    ofRecord? r = some p := by
  -- Directory and image are required, the base image is optional, and the registry has a default.
  have contextDir : r.required "contextDir" Json.string? = some p.contextDir :=
    Json.Record.required_of_get? Json.inverse_string
      ((found _ (by decide) (by decide)).trans (by simp [toMembers]))
  have baseImage : r.optional "baseImage" Json.string? = some p.baseImage :=
    Json.Record.optional_of_get? Json.inverse_string
      ((found _ (by decide) (by decide)).trans (by simp [toMembers]))
  have image : r.required "image" Json.string? = some p.image :=
    Json.Record.required_of_get? Json.inverse_string
      ((found _ (by decide) (by decide)).trans (by simp [toMembers]))
  have registry : r.withDefault "registry" .unspecified RegistrySpec.ofJson? = some p.registry :=
    Json.Record.withDefault_of_get? RegistrySpec.inverse_json _
      ((found _ (by decide) (by decide)).trans (by simp [toMembers]))
  rw [ofRecord?]
  rw [contextDir, baseImage, image, registry]
  rfl

/-- The members of a publication are texts, and an object of nothing but texts and a truth value. -/
theorem fits_of_mem_toMembers {p : Publication} {m : String × Json} (member : m ∈ p.toMembers)
    {depth : Nat} (some_ : 0 < depth) : Json.fits depth m.2 = true := by
  -- The settings of the registry are an object of texts and a truth value, one level deep.
  have registry : Json.fits depth p.registry.toJson = true := by
    rw [RegistrySpec.toJson, Json.fits, Json.membersFit_iff.mpr, Bool.and_true]
    · exact decide_eq_true some_
    · intro m member
      simp only [List.mem_append, Json.mem_field?, Option.map_eq_some_iff, List.mem_singleton] at member
      obtain ((⟨-, s, -, text⟩ | ⟨-, s, -, text⟩) | ⟨-, s, -, text⟩) | rfl := member
      · rw [← text, Json.fits_string]
      · rw [← text, Json.fits_string]
      · rw [← text, Json.fits_string]
      · exact Json.fits_bool _ _
  simp only [toMembers, List.cons_append, List.mem_cons, List.mem_append, Json.mem_field?,
    Option.map_eq_some_iff, List.not_mem_nil, or_false] at member
  -- All the others are texts.
  obtain rfl | ⟨-, s, -, text⟩ | rfl | rfl := member
  · exact Json.fits_string _ _
  · rw [← text, Json.fits_string]
  · exact Json.fits_string _ _
  · exact registry

end Publication

namespace Task

section Members

variable {name : String} {p : Publication} {own : List (String × Json)}

/-- What the tasks of both builders have in common is read, and what one of them has beside it. -/
theorem exists_parts {depth : Nat} (some_ : 0 < depth) (names : List String)
    (others : ∀ n ∈ names, n ∉ commonNames) (known : ∀ n ∈ Json.namesOf own, n ∈ names)
    (distinct : (Json.namesOf (("name", .string name) :: p.toMembers ++ own)).Nodup) :
    ∃ fields common,
      Json.openRecord? depth names (.object (("name", .string name) :: p.toMembers ++ own)) =
        some fields ∧
      Json.namedRecord? commonNames (.object (("name", .string name) :: p.toMembers ++ own)) =
        some common ∧
      (∀ n ∈ names, fields.get? n = Json.Record.get? ⟨own⟩ n) ∧
      common.required "name" Json.string? = some name ∧ Publication.ofRecord? common = some p := by
  -- The members of the one builder are its own, and the others are shallow enough to be passed over.
  obtain ⟨fields, read, found⟩ := Json.exists_openRecord? depth names distinct (by
    intro m member other
    rcases List.mem_append.mp member with both | alone
    · rcases List.mem_cons.mp both with rfl | publication
      · exact Json.fits_string _ _
      · exact Publication.fits_of_mem_toMembers publication some_
    · exact absurd (known _ (List.mem_map_of_mem alone)) other)
  obtain ⟨common, readCommon, foundCommon⟩ := Json.exists_namedRecord? commonNames distinct
  refine ⟨fields, common, read, readCommon, fun n member => (found n member).trans ?_, ?_, ?_⟩
  -- No name is used on both sides, so that each reader finds its members where they were written.
  · have absent : Json.Record.get? ⟨("name", .string name) :: p.toMembers⟩ n = none := by
      refine Json.Record.get?_of_not_mem fun shared => others n member ?_
      simp only [Json.namesOf_cons, Publication.namesOf_toMembers, List.mem_cons,
        List.mem_append, List.cons_append, Json.mem_namesOf_field?, List.not_mem_nil, or_false] at shared
      rcases shared with rfl | rfl | ⟨rfl, -⟩ | rfl | rfl <;> decide
    rw [Json.Record.get?_append, absent, Option.none_or]
  · exact Json.Record.required_of_get? Json.inverse_string
      ((foundCommon _ (by decide)).trans (by simp))
  · refine Publication.ofRecord?_of_get? fun n shared other => (foundCommon n shared).trans ?_
    have absent : Json.Record.get? ⟨own⟩ n = none :=
      Json.Record.get?_of_not_mem fun member => others n (known n member) shared
    rw [List.cons_append, Json.Record.get?_cons, if_neg (Ne.symm other), Json.Record.get?_append,
      absent, Option.or_none]

end Members

end Task

theorem inverse_strings : Json.Inverse (Json.list? Json.string?) Json.ofStrings :=
  Json.inverse_string.list

theorem KanikoTask.ofJson?_toJson {depth : Nat} (some_ : 0 < depth) (t : KanikoTask) :
    ofJson? depth t.toJson = some t := by
  -- The members that only this builder has are named, so that the others can be told apart from them.
  obtain ⟨own, members⟩ : ∃ own, own = [("verbose", .bool t.verbose), ("cache", t.cache.toJson)]
      ++ Json.field? "resources" (t.resources.map ResourceRequirements.toJson)
      ++ flagsToMembers t.additionalFlags
      ++ Json.field? "executorImage" (t.executorImage.map .string) := ⟨_, rfl⟩
  have written : t.toJson = .object (("name", .string t.name) :: t.publication.toMembers ++ own) := by
    simp [toJson, members]
  -- Some of them are left out when they are empty, and the names are distinct in any case.
  have distinct : (Json.namesOf (("name", .string t.name) :: t.publication.toMembers ++ own)).Nodup := by
    simp [List.nodup_append', List.disjoint_left, flagsToMembers, members]
  -- The object is opened twice, for the members of its own and for those in common.
  obtain ⟨fields, common, readOwn, readCommon, found, name, publication⟩ := Task.exists_parts some_
    ["verbose", "cache", "resources", "additionalFlags", "executorImage"] (by decide)
    (by simp [flagsToMembers, members, or_imp, forall_and]) distinct
  -- What is always written is found, whatever the default is.
  have verbose : fields.withDefault "verbose" false Json.bool? = some t.verbose :=
    Json.Record.withDefault_of_get? Json.inverse_bool _
      ((found _ (by decide)).trans (by simp [members]))
  have cache : fields.withDefault "cache" ⟨none, none⟩ LayerCache.ofJson? = some t.cache :=
    Json.Record.withDefault_of_get? LayerCache.inverse_json _
      ((found _ (by decide)).trans (by simp [members]))
  have resources : fields.optional "resources" ResourceRequirements.ofJson? = some t.resources :=
    Json.Record.optional_of_get? ResourceRequirements.inverse_json
      ((found _ (by decide)).trans (by simp [members, flagsToMembers]))
  -- Flags are only written when there are some, and the default is the empty list.
  have flags : fields.withDefault "additionalFlags" [] (Json.list? Json.string?) =
      some t.additionalFlags :=
    Json.Record.withDefault_of_get?_ite inverse_strings
      ((found _ (by decide)).trans (by simp [members, flagsToMembers])) List.isEmpty_iff.mp
  have executorImage : fields.optional "executorImage" Json.string? = some t.executorImage :=
    Json.Record.optional_of_get? Json.inverse_string
      ((found _ (by decide)).trans (by simp [members, flagsToMembers]))
  -- Every member has been read, so that the task is put together from what it was.
  rw [ofJson?, written, readOwn, Option.bind_eq_bind, Option.bind_some, readCommon,
    Option.bind_some]
  rw [name, publication, verbose, cache, resources, flags, executorImage]
  rfl

theorem BuildahTask.ofJson?_toJson {depth : Nat} (some_ : 0 < depth) (t : BuildahTask) :
    ofJson? depth t.toJson = some t := by
  -- Again the members of its own are named first.
  obtain ⟨own, members⟩ : ∃ own, own = Json.field? "platform" (t.platform.map .string)
      ++ [("verbose", .bool t.verbose)] ++ flagsToMembers t.additionalFlags
      ++ Json.field? "executorImage" (t.executorImage.map .string) := ⟨_, rfl⟩
  have written : t.toJson = .object (("name", .string t.name) :: t.publication.toMembers ++ own) := by
    simp [toJson, members]
  have distinct : (Json.namesOf (("name", .string t.name) :: t.publication.toMembers ++ own)).Nodup := by
    simp [List.nodup_append', List.disjoint_left, flagsToMembers, members]
  -- The same two openings give its own members and the common ones.
  obtain ⟨fields, common, readOwn, readCommon, found, name, publication⟩ := Task.exists_parts some_
    ["platform", "verbose", "additionalFlags", "executorImage"] (by decide)
    (by simp [flagsToMembers, members, or_imp, forall_and]) distinct
  -- A platform that is not given is not written, and read as none.
  have platform : fields.optional "platform" Json.string? = some t.platform :=
    Json.Record.optional_of_get? Json.inverse_string
      ((found _ (by decide)).trans (by simp [members, flagsToMembers]))
  have verbose : fields.withDefault "verbose" false Json.bool? = some t.verbose :=
    Json.Record.withDefault_of_get? Json.inverse_bool _
      ((found _ (by decide)).trans (by simp [members]))
  -- As with the other builder, no flags are no member.
  have flags : fields.withDefault "additionalFlags" [] (Json.list? Json.string?) =
      some t.additionalFlags :=
    Json.Record.withDefault_of_get?_ite inverse_strings
      ((found _ (by decide)).trans (by simp [members, flagsToMembers])) List.isEmpty_iff.mp
  have executorImage : fields.optional "executorImage" Json.string? = some t.executorImage :=
    Json.Record.optional_of_get? Json.inverse_string
      ((found _ (by decide)).trans (by simp [members, flagsToMembers]))
  rw [ofJson?, written, readOwn, Option.bind_eq_bind, Option.bind_some, readCommon,
    Option.bind_some]
  rw [name, publication, platform, verbose, flags, executorImage]
  rfl

/-- A task reads back inside a few other values. -/
theorem Task.inverse_json {outer : Nat} (inside : outer < openDepth) :
    Json.Inverse (ofJsonWithin? outer) toJson where
  read_write t := by
    have some_ : 0 < openDepth - outer := by omega
    -- Each builder is written under a name of its own, which tells the reader which one it is.
    cases t with
    | kaniko task =>
      change (KanikoTask.ofJson? (openDepth - outer) task.toJson).map kaniko = _
      rw [KanikoTask.ofJson?_toJson some_, Option.map_some]
    | buildah task =>
      change (BuildahTask.ofJson? (openDepth - outer) task.toJson).map buildah = _
      rw [BuildahTask.ofJson?_toJson some_, Option.map_some]
  write_ne_null t := by cases t <;> nofun

end ImageBuild
