import ImageBuild.Build.Request
import ImageBuild.Proofs.Worker.Assembly
import ImageBuild.Proofs.Worker.Mounted

/-! The directory in which a container works, and the one in which it has the context of its build: they are the same
for Kaniko, and for Buildah only where the task names the directory that a new build would have. -/

namespace ImageBuild

open Kubernetes Run Work

/-- The tasks of a new build have their context in the directory that its name determines. -/
theorem BuildRequest.contextDir_of_build {r : BuildRequest} {b : Build} (answered : r.build = .ok b)
    {task : Task} (member : task ∈ b.spec.tasks) :
    task.publication.contextDir = Build.contextDir b.reference.name := by
  -- A request that is answered gives one task, of either builder.
  unfold build at answered
  split at answered
  · cases answered
  · split at answered
    all_goals cases answered
    all_goals
      rw [List.mem_singleton.mp member]
      rfl

namespace Worker

/-- The directories in which a container has the context of its build. -/
def contextDirectories (container : Container) : List String :=
  (contextPlaces (container.volumeMounts.getD [])).map VolumeMount.path

/-- A container that works where its task has its context, and where the volume of that is. -/
structure WorksInContext (task : Task) (container : Container) : Prop where
  works : container.workingDir = some task.publication.contextDir
  mounted : contextDirectories container = [task.publication.contextDir]
  /-- Kaniko is told of the directory by one of its own arguments, too. -/
  told : ∀ t, task = .kaniko t → ∃ own, container.args = some (own ++ t.additionalFlags) ∧
    settings "--context" own = ["--context=dir://" ++ t.publication.contextDir]

/-- One of its own arguments tells Kaniko of the context. -/
theorem Kaniko.settings_context (task : KanikoTask) (address : Option String) :
    settings "--context" (flags task address) = ["--context=dir://" ++ task.publication.contextDir] := by
  have told : settings "--context" ["--context=dir://" ++ task.publication.contextDir]
      = ["--context=dir://" ++ task.publication.contextDir] := by
    refine List.filter_eq_self.mpr fun flag member => ?_
    rw [List.mem_singleton.mp member, String.toList_append,
      isPrefixOf_append_of_length_le (by decide)]
    decide
  -- No other flag begins like the setting of the context.
  have destination (value : String) : settings "--context" ["--destination=" ++ value] = [] :=
    settings_cons_append (by decide) (by decide) value []
  have cache : settings "--context" ("--cache=true" ::
      if task.cache.volumeClaim.isSome then ["--cache-dir=" ++ cacheDirectory] else []) = [] := by
    cases task.cache.volumeClaim.isSome <;> decide
  unfold flags args
  rw [List.append_nil, settings_append, settings_append, settings_append, settings_ite _ (by decide),
    settings_ite _ (by decide), settings_ite _ cache, List.append_nil, List.append_nil, List.append_nil]
  -- Before the flags that depend on the task there are three that are always there.
  change settings "--context" (["--dockerfile=Dockerfile"]
    ++ (["--context=dir://" ++ task.publication.contextDir] ++ ["--destination=" ++ _])) = _
  rw [settings_append, settings_append, told, destination, List.append_nil]
  rfl

variable {s : Settings} {b : Build} {task : Task} {c d : Cluster} {built : Pod} {p : Part}

/-- A context that is there is mounted in the directory of the task. -/
theorem contextDirectories_of_part {map : ConfigMap}
    (there : c.configMaps.get? (Context.place s.config.podNamePrefix b) = some map)
    (sincere : c.Sincere) (made : (part s b task).run.run c = (.ok p, d)) :
    contextDirectories p.container = [task.publication.contextDir] := by
  -- The context is mounted exactly once, and at the directory of the task.
  have mounts := mountsContext_of_comesTo ⟨c, d, .refl c, made⟩
  rw [contextDirectories, show p.container.volumeMounts.getD [] = p.mounts.places from rfl,
    (mounts.of_there there sincere).2]
  rfl

/-- Kaniko works where it has the context. -/
theorem Kaniko.worksInContext {task : KanikoTask}
    (mounted : contextDirectories p.container = [task.publication.contextDir])
    (made : (part s b task).run.run c = (.ok p, d)) : WorksInContext (.kaniko task) p.container := by
  -- Kaniko gets the directory twice, as its working directory and as an option.
  obtain ⟨⟨_, works, address, args⟩, _⟩ := reports_container s b task c ⟨rfl, rfl⟩ p d made
  refine ⟨works, mounted, ?_⟩
  rintro _ ⟨rfl⟩
  exact ⟨Kaniko.flags task address, by rw [args, args_eq], settings_context task address⟩

/-- Buildah works where it has the context if that is where a new build of the name would have it. -/
theorem Buildah.worksInContext_iff {task : BuildahTask}
    (mounted : contextDirectories p.container = [task.publication.contextDir])
    (made : (part s b task).run.run c = (.ok p, d)) :
    p.container.workingDir = some (Build.contextDir b.reference.name) ∧
      (WorksInContext (.buildah task) p.container
        ↔ task.publication.contextDir = Build.contextDir b.reference.name) := by
  -- The working directory is that of the build's name, whatever the task says.
  obtain ⟨works, _⟩ := reports_container s b task c ⟨rfl, rfl⟩ p d made
  refine ⟨works, fun good => ?_, fun same => ?_⟩
  · exact Option.some.inj (good.works.symm.trans works)
  · exact ⟨works.trans (congrArg some same.symm), mounted, fun _ other => by cases other⟩

/-- Kaniko always works where its task has the context of the build, and where the volume of the context is. Buildah has
the volume there, too, but works in the directory that the name of the build determines: this is the same one for all
new builds, and another one for a build whose task names another directory. -/
theorem works_in_context_iff {map : ConfigMap} (single : b.spec.tasks = [task])
    (there : c.configMaps.get? (Context.place s.config.podNamePrefix b) = some map)
    (sincere : c.Sincere) (ran : (pod s b).run.run c = (.ok built, d)) :
    ∃ container, RunsOnly built container ∧
      contextDirectories container = [task.publication.contextDir] ∧
      (∀ t, task = .buildah t → container.workingDir = some (Build.contextDir b.reference.name)) ∧
      (WorksInContext task container ↔
        (∃ t, task = .kaniko t) ∨ task.publication.contextDir = Build.contextDir b.reference.name) ∧
      ∀ (r : BuildRequest) (new : Build), r.build = .ok new → new.reference = b.reference →
        new.spec = b.spec → WorksInContext task container := by
  obtain ⟨p, made, rfl⟩ := part_of_single single ran
  have mounted := contextDirectories_of_part there sincere made
  have works : (∀ t, task = .buildah t →
        p.container.workingDir = some (Build.contextDir b.reference.name)) ∧
      (WorksInContext task p.container ↔
        (∃ t, task = .kaniko t) ∨ task.publication.contextDir = Build.contextDir b.reference.name) := by
    -- Kaniko always works in its context, and Buildah if the two directories are the same.
    cases task with
    | kaniko t =>
      refine ⟨fun _ other => ?_, iff_of_true (Kaniko.worksInContext mounted made) (.inl ⟨t, rfl⟩)⟩
      cases other
    | buildah t =>
      obtain ⟨directory, works⟩ := Buildah.worksInContext_iff mounted made
      exact ⟨fun _ _ => directory,
        works.trans (or_iff_right fun ⟨_, other⟩ => by cases other).symm⟩
  refine ⟨p.container, runsOnly_podOf s b task p, mounted, works.1, works.2, ?_⟩
  intro r new answered reference spec
  -- A task that a request was answered with has the directory of the name.
  have member : task ∈ new.spec.tasks := by rw [spec, single]; exact List.mem_cons_self
  exact works.2.mpr (.inr (reference ▸ BuildRequest.contextDir_of_build answered member))

/-- What is built in a directory that no new build has. -/
def workPublication : Publication := { publicationTo .unspecified "app" with contextDir := "/work" }

/-- A task of Kaniko with its context in a directory of its own. -/
def roamingKaniko : KanikoTask := ⟨"Roaming", workPublication, false, default, none, [], none⟩

/-- A task of Buildah with its context in a directory of its own. -/
def roamingBuildah : BuildahTask := ⟨"Roaming", workPublication, none, false, [], none⟩

/-- Nothing is planned to fail in the stocked cluster, and it has the context of the build. -/
theorem stockedCluster_context (tasks : List Task) :
    stockedCluster.Sincere ∧ ∃ map, stockedCluster.configMaps.get?
      (Context.place directSettings.config.podNamePrefix (buildOf tasks)) = some map :=
  ⟨fun _ planned => absurd planned List.not_mem_nil,
    -- The tasks have no part in the place of a context.
    Option.isSome_iff_exists.mp (show (stockedCluster.configMaps.get?
      (Context.place directSettings.config.podNamePrefix (buildOf []))).isSome = true by decide +kernel)⟩

/-- Kaniko works in the directory of its own. -/
theorem works_in_context_iff_roamingKaniko :
    ∃ built d container,
      (pod directSettings (buildOf [.kaniko roamingKaniko])).run.run stockedCluster = (.ok built, d) ∧
      RunsOnly built container ∧ contextDirectories container = ["/work"] ∧
      WorksInContext (.kaniko roamingKaniko) container := by
  -- The context is at another place than usual.
  obtain ⟨sincere, map, there⟩ := stockedCluster_context [.kaniko roamingKaniko]
  obtain ⟨built, d, ran⟩ : ∃ built d, (pod directSettings (buildOf [.kaniko roamingKaniko])).run.run
      stockedCluster = (.ok built, d) := ⟨_, _, rfl⟩
  obtain ⟨container, only, mounted, -, works, -⟩ := works_in_context_iff rfl there sincere ran
  exact ⟨built, d, container, ran, only, mounted, works.mpr (.inl ⟨roamingKaniko, rfl⟩)⟩

/-- Buildah works elsewhere than where it has the context that its task names a directory for. -/
theorem buildah_works_outside_context :
    ∃ built d container,
      (pod directSettings (buildOf [.buildah roamingBuildah])).run.run stockedCluster = (.ok built, d) ∧
      RunsOnly built container ∧ contextDirectories container = ["/work"] ∧
      container.workingDir = some "/builder/app/context" ∧
      ¬WorksInContext (.buildah roamingBuildah) container := by
  -- The same directory given to the other builder.
  obtain ⟨sincere, map, there⟩ := stockedCluster_context [.buildah roamingBuildah]
  obtain ⟨p, d, made⟩ : ∃ p d, (part directSettings (buildOf [.buildah roamingBuildah])
      (.buildah roamingBuildah)).run.run stockedCluster = (.ok p, d) := ⟨_, _, rfl⟩
  have mounted := contextDirectories_of_part there sincere made
  obtain ⟨directory, works⟩ := Buildah.worksInContext_iff mounted made
  obtain ⟨built, ran, only⟩ := runsOnly_of_part (.buildah roamingBuildah) made
  exact ⟨built, d, p.container, ran, only, mounted, directory.trans (by decide),
    fun good => absurd (works.mp good) (by decide)⟩

end Worker

end ImageBuild
