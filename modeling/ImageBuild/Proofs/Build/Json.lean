import ImageBuild.Build.Json
import ImageBuild.Proofs.Instant.Text
import ImageBuild.Proofs.Task.Json

/-! Nothing of a build is lost when it is written as JSON. -/

namespace ImageBuild

theorem Instant.inverse_json : Json.Inverse Instant.ofJson? Instant.toJson where
  -- The text of an instant is a JSON string, and reading the text gives the instant again.
  read_write t := by
    rw [ofJson?, toJson, Json.inverse_string.read_write, Option.bind_some, ofText?_toText]
  write_ne_null _ := nofun

theorem Phase.inverse_json : Json.Inverse Phase.ofJson? Phase.toJson :=
  ⟨Phase.ofName?_name, fun _ => nofun⟩

theorem Recovery.inverse_json : Json.Inverse Recovery.ofJson? Recovery.toJson where
  -- The record opens as it was written, and each member is found under its own name.
  read_write r := by
    rw [ofJson?, toJson]
    refine Json.record?_bind (by simp) fun fields found => ?_
    have attempt : fields.required "attempt" Json.uint32? = some r.attempt :=
      Json.Record.required_of_get? Json.inverse_uint32 ((found _ (by decide)).trans (by simp))
    have attemptMax : fields.required "attemptMax" Json.uint32? = some r.attemptMax :=
      Json.Record.required_of_get? Json.inverse_uint32 ((found _ (by decide)).trans (by simp))
    -- No time is written before the first retry, and a missing time reads back as none.
    have attemptTime : fields.optional "attemptTime" Instant.ofJson? = some r.attemptTime :=
      Json.Record.optional_of_get? Instant.inverse_json ((found _ (by decide)).trans (by simp))
    rw [attempt, attemptMax, attemptTime]
    rfl
  write_ne_null _ := nofun

theorem Failure.inverse_json : Json.Inverse Failure.ofJson? Failure.toJson where
  -- The record of the retries is nested as one more member.
  read_write f := by
    rw [ofJson?, toJson]
    refine Json.record?_bind (by simp) fun fields found => ?_
    have reason : fields.required "reason" Json.string? = some f.reason :=
      Json.Record.required_of_get? Json.inverse_string ((found _ (by decide)).trans (by simp))
    have time : fields.required "time" Instant.ofJson? = some f.time :=
      Json.Record.required_of_get? Instant.inverse_json ((found _ (by decide)).trans (by simp))
    have recovery : fields.required "recovery" Recovery.ofJson? = some f.recovery :=
      Json.Record.required_of_get? Recovery.inverse_json ((found _ (by decide)).trans (by simp))
    -- With every member read the record is put together again.
    rw [reason, time, recovery]
    rfl
  write_ne_null _ := nofun

/-- The tasks of a build stand deep enough in it for the reader of each. -/
theorem BuildSpec.inverse_json : Json.Inverse BuildSpec.ofJson? BuildSpec.toJson where
  read_write spec := by
    rw [ofJson?, toJson]
    refine Json.record?_bind (by simp) fun fields found => ?_
    -- The tasks are two levels deep in the document, which is within what their reader allows.
    have tasks : fields.required "tasks" (Json.list? (Task.ofJsonWithin? 3)) = some spec.tasks :=
      Json.Record.required_of_get? (Task.inverse_json (by decide)).list
        ((found _ (by decide)).trans (by simp))
    -- The last two are always written, so their defaults are never used.
    have strategy : fields.withDefault "strategy" .pod BuildStrategy.ofJson? = some spec.strategy :=
      Json.Record.withDefault_of_get? BuildStrategy.inverse_json _
        ((found _ (by decide)).trans (by simp))
    have timeout : fields.withDefault "timeout" .zero Duration.ofJson? = some spec.timeout :=
      Json.Record.withDefault_of_get? Duration.inverse_json _
        ((found _ (by decide)).trans (by simp))
    rw [tasks, strategy, timeout]
    rfl
  write_ne_null _ := nofun

theorem BuildStatus.inverse_json : Json.Inverse BuildStatus.ofJson? BuildStatus.toJson where
  read_write status := by
    rw [ofJson?, toJson]
    -- Members without a value are left out of the list, so the names have to be shown distinct across its parts.
    refine Json.record?_bind (by simp [List.nodup_append', List.disjoint_left]) fun fields found => ?_
    have phase : fields.withDefault "phase" .new Phase.ofJson? = some status.phase :=
      Json.Record.withDefault_of_get? Phase.inverse_json _ ((found _ (by decide)).trans (by simp))
    -- An absent member and an optional value that is none are one and the same.
    have startedAt : fields.optional "startedAt" Instant.ofJson? = some status.startedAt :=
      Json.Record.optional_of_get? Instant.inverse_json ((found _ (by decide)).trans (by simp))
    have error : fields.optional "error" Json.string? = some status.error :=
      Json.Record.optional_of_get? Json.inverse_string ((found _ (by decide)).trans (by simp))
    have failure : fields.optional "failure" Failure.ofJson? = some status.failure :=
      Json.Record.optional_of_get? Failure.inverse_json ((found _ (by decide)).trans (by simp))
    have duration : fields.optional "duration" Duration.ofJson? = some status.duration :=
      Json.Record.optional_of_get? Duration.inverse_json ((found _ (by decide)).trans (by simp))
    rw [phase, startedAt, error, failure, duration]
    rfl
  write_ne_null _ := nofun

/-- A build is read with its place, its version, what is to be done, and what has become of it. -/
theorem Build.inverse_json : Json.Inverse Build.ofJson? Build.toJson where
  read_write b := by
    -- The members of the reference are inlined next to those of the build, and no two share a name.
    have distinct : (Json.namesOf (b.reference.toMembers ++ [("resourceVersion",
        .ofNat b.version.toNat), ("spec", b.spec.toJson), ("status", b.status.toJson)])).Nodup := by
      simp [Reference.toMembers]
    -- The object is opened twice: once for the members of the build, once for those of the reference.
    obtain ⟨fields, read, found⟩ := Json.exists_openRecord? openDepth
      ["resourceVersion", "spec", "status"] distinct (by simp [Reference.toMembers])
    obtain ⟨place, readPlace, foundPlace⟩ := Json.exists_namedRecord? ["namespace", "name"] distinct
    -- Namespace and name are found in the second opening.
    have reference : Reference.ofRecord? place = some b.reference :=
      Reference.ofRecord?_of_get? ((foundPlace _ (by decide)).trans (by simp [Reference.toMembers]))
        ((foundPlace _ (by decide)).trans (by simp [Reference.toMembers]))
    -- The others are found in the first one, each by its own inverse.
    have version : fields.withDefault "resourceVersion" 0 Json.uint64? = some b.version :=
      Json.Record.withDefault_of_get? Json.inverse_uint64 _
        ((found _ (by decide)).trans (by simp [Reference.toMembers]))
    have spec : fields.required "spec" BuildSpec.ofJson? = some b.spec :=
      Json.Record.required_of_get? BuildSpec.inverse_json
        ((found _ (by decide)).trans (by simp [Reference.toMembers]))
    have status : fields.withDefault "status" .fresh BuildStatus.ofJson? = some b.status :=
      Json.Record.withDefault_of_get? BuildStatus.inverse_json _
        ((found _ (by decide)).trans (by simp [Reference.toMembers]))
    rw [ofJson?, toJson, read, Option.bind_eq_bind, Option.bind_some, readPlace, Option.bind_some]
    rw [reference, version, spec, status]
    rfl
  -- What is written is an object, never null.
  write_ne_null _ := nofun

/-- Builds and platforms read back from what is written of them, which therefore differs between any two. -/
theorem written_form_loses_nothing :
    (∀ b : Build, Build.ofJson? b.toJson = some b) ∧
      (∀ p : Platform, Platform.ofJson? p.toJson = some p) ∧
      Function.Injective Build.toJson ∧ Function.Injective Platform.toJson :=
  -- A form that reads back is injective, since reading is its left inverse.
  ⟨Build.inverse_json.read_write, Platform.inverse_json.read_write, Build.inverse_json.injective,
    Platform.inverse_json.injective⟩

end ImageBuild
