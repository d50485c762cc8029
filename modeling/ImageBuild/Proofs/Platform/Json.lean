import ImageBuild.Platform.Json
import ImageBuild.Dict.Laws
import ImageBuild.Proofs.Duration.Text
import ImageBuild.Proofs.Json.Record

/-! Nothing of a platform is lost when it is written as JSON. -/

namespace ImageBuild

/-- The entries of a map make up that map. -/
theorem Dict.ofList_entries (d : Dict String String) : ofList d.entries = d := by
  -- What is found after all entries are set is found in the last of them with the key.
  have general : ∀ (l : List (String × String)) (e : Dict String String),
      l.Pairwise (fun a b => compare a.1 b.1 = .lt) →
      ∀ k, (l.foldl (fun d e => d.insert e.1 e.2) e).get? k = (lookup k l).or (e.get? k) := by
    intro l
    induction l with
    | nil => intro e _ k; simp [lookup]
    | cons m rest ih =>
      intro e ordered k
      obtain ⟨above, tail⟩ := List.pairwise_cons.mp ordered
      rw [List.foldl_cons, ih _ tail, get?_insert, lookup]
      by_cases same : k = m.1
      · subst same
        rw [lookup_of_below above, if_pos rfl, if_pos (by simp)]
        rfl
      · have other : compare k m.1 ≠ .eq := fun equal => same (Std.LawfulEqOrd.eq_of_compare equal)
        rw [if_neg same, if_neg other]
  -- Starting from the empty dictionary, every key is found as in the list.
  apply ext_get?
  intro k
  rw [ofList, general d.entries empty d.ordered k, get?_empty, Option.or_none]
  rfl

/-- A map without entries is the empty one. -/
theorem Dict.eq_empty_of_isEmpty {κ β : Type} [Ord κ] {d : Dict κ β} (none_ : d.isEmpty = true) :
    d = .empty := by
  -- Being empty is told from the entries.
  obtain ⟨entries, ordered⟩ := d
  cases entries with
  | nil => rfl
  | cons e rest => cases none_

theorem inverse_texts : Json.Inverse textsOfJson? textsToJson where
  read_write d := by
    have members : Json.members? Json.string? (textsToJson d) = some d.entries := by
      change (d.entries.map (fun e => (e.1, Json.string e.2))).mapM
        (fun m => (Json.string? m.2).map (m.1, ·)) = some d.entries
      -- The induction is on the entries, which need not be ordered for this.
      generalize d.entries = l
      induction l with
      | nil => rfl
      | cons e rest ih =>
        rw [List.map_cons, List.mapM_cons, ih]
        rfl
    rw [textsOfJson?, members, Option.map_some, Dict.ofList_entries]
  write_ne_null _ := nofun

theorem Duration.inverse_json : Json.Inverse Duration.ofJson? Duration.toJson where
  -- A length of time is a JSON string, and its text reads back.
  read_write d := by
    rw [ofJson?, toJson, Json.inverse_string.read_write, Option.bind_some, ofText?_toText]
  write_ne_null _ := nofun

theorem BuildStrategy.inverse_json :
    Json.Inverse BuildStrategy.ofJson? (fun s : BuildStrategy => .string s.name) :=
  ⟨BuildStrategy.ofName?_name, fun _ => nofun⟩

theorem PublishStrategy.inverse_json :
    Json.Inverse PublishStrategy.ofJson? (fun s : PublishStrategy => .string s.name) :=
  ⟨PublishStrategy.ofName?_name, fun _ => nofun⟩

/-- The settings of a registry are found under their names. -/
theorem RegistrySpec.inverse_json : Json.Inverse RegistrySpec.ofJson? RegistrySpec.toJson where
  read_write r := by
    rw [ofJson?, toJson]
    -- Every member may be missing, so that the names are distinct whichever of them are written.
    refine Json.record?_bind (by simp [List.nodup_append', List.disjoint_left]) fun fields found => ?_
    have address : fields.optional "address" Json.string? = some r.address :=
      Json.Record.optional_of_get? Json.inverse_string ((found _ (by decide)).trans (by simp))
    have secret : fields.optional "secret" Json.string? = some r.secret :=
      Json.Record.optional_of_get? Json.inverse_string ((found _ (by decide)).trans (by simp))
    have ca : fields.optional "ca" Json.string? = some r.ca :=
      Json.Record.optional_of_get? Json.inverse_string ((found _ (by decide)).trans (by simp))
    -- What is not insecure is left out, and read as the default.
    have insecure : fields.withDefault "insecure" false Json.bool? = some r.insecure :=
      Json.Record.withDefault_of_get? Json.inverse_bool _ ((found _ (by decide)).trans (by simp))
    rw [address, secret, ca, insecure]
    rfl
  write_ne_null _ := nofun

/-- A map that is left out when it is empty is read as the empty one. -/
theorem PlatformSpec.inverse_json : Json.Inverse PlatformSpec.ofJson? PlatformSpec.toJson where
  read_write spec := by
    rw [ofJson?, toJson]
    refine Json.record?_bind (by simp [List.nodup_append', List.disjoint_left]) fun fields found => ?_
    -- The strategies and the registry have defaults; the rest are optional.
    have build : fields.withDefault "buildStrategy" .pod BuildStrategy.ofJson? =
        some spec.buildStrategy :=
      Json.Record.withDefault_of_get? BuildStrategy.inverse_json _
        ((found _ (by decide)).trans (by simp))
    have publish : fields.withDefault "publishStrategy" .kaniko PublishStrategy.ofJson? =
        some spec.publishStrategy :=
      Json.Record.withDefault_of_get? PublishStrategy.inverse_json _
        ((found _ (by decide)).trans (by simp))
    have baseImage : fields.optional "baseImage" Json.string? = some spec.baseImage :=
      Json.Record.optional_of_get? Json.inverse_string ((found _ (by decide)).trans (by simp))
    have registry : fields.withDefault "registry" .unspecified RegistrySpec.ofJson? =
        some spec.registry :=
      Json.Record.withDefault_of_get? RegistrySpec.inverse_json _
        ((found _ (by decide)).trans (by simp))
    have timeout : fields.optional "timeout" Duration.ofJson? = some spec.timeout :=
      Json.Record.optional_of_get? Duration.inverse_json ((found _ (by decide)).trans (by simp))
    -- Empty options are not written, and missing ones are read as empty.
    have options : fields.withDefault "publishStrategyOptions" .empty textsOfJson? =
        some spec.options :=
      Json.Record.withDefault_of_get?_ite inverse_texts
        ((found _ (by decide)).trans (by simp)) Dict.eq_empty_of_isEmpty
    rw [build, publish, baseImage, registry, timeout, options]
    rfl
  write_ne_null _ := nofun

/-- A place is read from the members that it is written as, whatever else is there. -/
theorem Reference.ofRecord?_of_get? {r : Json.Record} {place : Reference}
    (scope : r.get? "namespace" = some (.string place.scope))
    (name : r.get? "name" = some (.string place.name)) : ofRecord? r = some place := by
  -- Both members are there, so neither default is used.
  have scope := Json.Record.withDefault_of_get? Json.inverse_string "" scope
  have name := Json.Record.withDefault_of_get? Json.inverse_string "" name
  rw [ofRecord?, scope, name]
  rfl

/-- The settings of a platform stand beside its place. -/
theorem Platform.inverse_json : Json.Inverse Platform.ofJson? Platform.toJson where
  read_write p := by
    have distinct : (Json.namesOf (p.reference.toMembers ++ [("spec", p.spec.toJson)])).Nodup := by
      simp [Reference.toMembers]
    -- The members of the reference stand next to the settings, so the object is opened for each of them.
    obtain ⟨fields, read, found⟩ := Json.exists_openRecord? openDepth ["spec"] distinct
      (by simp [Reference.toMembers])
    obtain ⟨place, readPlace, foundPlace⟩ := Json.exists_namedRecord? ["namespace", "name"] distinct
    -- The place is read from its two members, and the settings from the third.
    have reference : Reference.ofRecord? place = some p.reference :=
      Reference.ofRecord?_of_get? ((foundPlace _ (by decide)).trans (by simp [Reference.toMembers]))
        ((foundPlace _ (by decide)).trans (by simp [Reference.toMembers]))
    have spec : fields.required "spec" PlatformSpec.ofJson? = some p.spec :=
      Json.Record.required_of_get? PlatformSpec.inverse_json
        ((found _ (by decide)).trans (by simp [Reference.toMembers]))
    rw [ofJson?, toJson, read, Option.bind_eq_bind, Option.bind_some, readPlace, Option.bind_some]
    rw [reference, spec]
    rfl
  write_ne_null _ := nofun

end ImageBuild
