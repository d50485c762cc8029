import ImageBuild.Proofs.Engine.Versions
import ImageBuild.Proofs.Worker.Assembly
import ImageBuild.Proofs.Worker.Discreet

/-! Credentials stay where they are: to whoever deals with an engine, clusters that differ in the values of their
Secrets only are one. -/

namespace ImageBuild

open Cluster Kubernetes Run Worker

/-- Sites that differ in the values of Secrets only. -/
structure Site.OpenlyAlike (s t : Site) : Prop where
  cluster : s.cluster.OpenlyAlike t.cluster
  log : s.log = t.log

namespace Site

/-- Steps at a site that come to the same whatever values the Secrets hold. -/
def Discreet {α : Type} (m : SiteM α) : Prop := Parallel OpenlyAlike m m

/-- Work at a site is as discreet as it is in the cluster. -/
theorem discreet_work {α : Type} {w : Work α} (discreet : Cluster.Discreet w) : Discreet (work w) := by
  -- Work does not write to the log.
  intro s t alike
  obtain ⟨result, after⟩ := discreet s.cluster t.cluster alike.cluster
  rw [run_work, run_work]
  exact ⟨result, after, alike.log⟩

/-- What is recorded is the same at both sites. -/
theorem discreet_record (e : Log.Event) : Discreet (record e) := by
  -- The same event is added to logs that are the same.
  intro s t alike
  rw [run_record, run_record]
  exact ⟨rfl, alike.cluster, congrArg (· ++ [e]) alike.log⟩

end Site

namespace Engine

open Site Work

variable {σ : Type}

/-- The worker pod of a build is deleted discreetly. -/
theorem discreet_delete (s : Settings) (b : Build) : Cluster.Discreet (deletePod s b) :=
  (discreet_find (discreet_deletePod _)).bind (fun _ => .pure _)

/-- The worker pod of a build is created discreetly. -/
theorem discreet_create (s : Settings) (b : Build) : Cluster.Discreet (createPod s b) :=
  -- What the pod is put together from is open, and so is its creation.
  (discreet_pod s b).bind fun built =>
    (discreet_callUnless _ (discreet_createPod built)).bind fun _ => .pure _

/-- Room for a worker is made discreetly. -/
theorem discreet_prepare (s : Settings) (b : Build) : Cluster.Discreet (prepare s b) := by
  -- Whether there is a pod is seen in both runs alike.
  refine (discreet_delete s b).bind fun _ =>
    (discreet_find (discreet_getPod _)).bind fun found => ?_
  cases found <;> exact .pure _

/-- A missing worker pod is put together again discreetly. -/
theorem discreet_replacePod (s : Settings) (now : Instant) (b : Build) :
    Site.Discreet (replacePod s now b) := by
  -- The phase decides whether the pod is made again.
  unfold replacePod
  split
  · exact .pure _
  · exact (discreet_record _).bind fun _ =>
      (discreet_work (discreet_create s b)).bind fun _ => .pure _

/-- A worker is followed discreetly. -/
theorem discreet_monitor (s : Settings) (now : Instant) (b : Build) :
    Site.Discreet (monitor s now b) := by
  unfold monitor
  split
  · exact (discreet_work (discreet_delete s b)).bind fun _ =>
      (discreet_record _).bind fun _ => .pure _
  · refine (discreet_work (discreet_find (discreet_getPod _))).bind fun found => ?_
    -- Whether it is late or not depends on the build alone, and the rest on the pod that is found.
    cases found with
    | some pod => exact .pure _
    | none => exact discreet_replacePod s now b

/-- A failed build is looked at discreetly. -/
theorem discreet_recover (c : RecoveryConfig) (now : Instant) (b : Build) :
    Site.Discreet (recover c now b) := by
  -- Nothing is asked of the cluster at all.
  unfold recover
  split
  · exact .pure _
  · simp only
    split
    · exact (discreet_record _).bind fun _ => .pure _
    · split
      · exact .pure _
      · exact (discreet_record _).bind fun _ => .pure _

/-- Every action is discreet. -/
theorem discreet_act (s : Settings) (now : Instant) (b : Build) (action : Action) :
    Site.Discreet (act s now b action) := by
  unfold act
  -- Each action has been dealt with, or is one call.
  cases action with
  | prepare => exact discreet_work (discreet_prepare s b)
  | launch => exact discreet_work ((discreet_create s b).bind fun _ => .pure _)
  | monitor => exact discreet_monitor s now b
  | recover => exact discreet_recover s.config.recovery now b
  | giveUp => exact .pure b
  | cleanUp => exact discreet_work ((discreet_delete s b).bind fun _ => .pure b)

/-- An action is discreet also in what it records: the texts of its failures are the same. -/
theorem discreet_actRecorded (s : Settings) (now : Instant) (b : Build) (action : Action) :
    Site.Discreet (actRecorded s now b action) := by
  unfold actRecorded
  -- What is recorded around the action are the build and the message of its failure.
  refine (discreet_record _).bind fun _ => Parallel.bind ?_ fun target => ?_
  · exact (discreet_act s now b action).tryCatch fun e =>
      (discreet_record _).bind fun _ => .throw e
  · simp only
    split
    · exact (discreet_record _).bind fun _ => .pure target
    · exact .pure target

/-- A step is discreet. -/
theorem discreet_step (s : Settings) (now : Instant) (b : Build) : Site.Discreet (step s now b) := by
  -- The action is chosen by the phase.
  unfold step
  split
  · exact discreet_actRecorded s now b _
  · exact .pure b

/-- Engines with one store that differ in the values of Secrets only. -/
structure OpenlyAlike (g h : Engine σ) : Prop where
  site : g.toSite.OpenlyAlike h.toSite
  store : g.store = h.store

/-- Steps of an engine that come to the same whatever values the Secrets hold. -/
def Discreet {α : Type} (m : EngineM σ α) : Prop := Parallel OpenlyAlike m m

/-- Steps at the site are as discreet as they are by themselves. -/
theorem discreet_atSite {α : Type} {m : SiteM α} (discreet : Site.Discreet m) :
    Discreet (σ := σ) (atSite m) := by
  -- The store has no part in it.
  intro g h alike
  obtain ⟨result, after⟩ := discreet g.toSite h.toSite alike.site
  rw [run_atSite, run_atSite]
  exact ⟨result, after, alike.store⟩

variable [BuildStore σ]

/-- A build is saved discreetly. -/
theorem discreet_persist (b : Build) : Discreet (σ := σ) (persist b) := by
  -- The stores are the same, so the save ends in the same way.
  intro g h alike
  rw [run_persist, run_persist, alike.store, alike.site.log]
  exact ⟨rfl, ⟨alike.site.cluster, rfl⟩, rfl⟩

/-- A build is loaded discreetly. -/
theorem discreet_load (place : Reference) : Discreet (σ := σ) (load place) := by
  -- The same store answers.
  intro g h alike
  rw [run_load, run_load, alike.store]
  exact ⟨rfl, alike⟩

/-- A build is carried on discreetly. -/
theorem discreet_reconcile (s : Settings) (now : Instant) (b : Build) :
    Discreet (σ := σ) (reconcile s now b) := by
  -- Whether the build is saved depends on what became of it, which is the same.
  refine (discreet_atSite (discreet_step s now b)).bind fun target => ?_
  split
  · exact .pure target
  · exact discreet_persist target

/-- A build is cancelled discreetly. -/
theorem discreet_cancel (s : Settings) (b : Build) : Discreet (σ := σ) (cancel s b) := by
  unfold cancel
  split
  · exact .pure b
  · refine (discreet_atSite (discreet_record _)).bind fun _ =>
      (discreet_persist _).bind fun target => ?_
    -- A failed deletion is reported with its message, and that names no values.
    have deleted := (discreet_atSite (σ := σ) (discreet_work (discreet_delete s target))).tryCatch
      fun e => discreet_atSite (discreet_record (.warn ("Failed to delete pod of cancelled build "
        ++ target.reference.key ++ ": " ++ e.message)))
    exact deleted.bind fun _ => .pure target

/-- A build is scheduled discreetly. -/
theorem discreet_schedule (s : Settings) (now : Instant) (d : Draft) :
    Discreet (σ := σ) (schedule s now d) :=
  -- The context, the save, the report and the first reconciliation, one after another.
  (discreet_atSite (discreet_work (Context.discreet_replace _ _ _))).bind fun _ =>
    (discreet_persist _).bind fun b =>
      (discreet_atSite (discreet_record _)).bind fun _ => discreet_reconcile s now b

/-- Whatever is asked of an engine is done discreetly. -/
theorem Operation.discreet (o : Operation) : Discreet (σ := σ) o.perform := by
  -- Every operation has been dealt with above.
  cases o with
  | schedule s now d => exact discreet_schedule s now d
  | load place => exact discreet_load place
  | move m b =>
    cases m with
    | reconcile s now => exact discreet_reconcile s now b
    | cancel s => exact discreet_cancel s b

/-- What may happen at an engine: somebody asks it for something, or its cluster changes. -/
inductive Occurrence
  | asked (o : Operation)
  | changed (step : Cluster.Step)

/-- Whoever decides what happens next, by how much has happened and by all answers so far. -/
abbrev Client := ℕ → List (Except BuildError Build) → Occurrence

/-- The answers of an engine to what a client makes happen, the first one first, and the engine after that. -/
def serve (client : Client) (g : Engine σ) : ℕ → List (Except BuildError Build) × Engine σ
  | 0 => ([], g)
  | n + 1 =>
    let (answers, h) := serve client g n
    match client n answers with
    | .asked o => (answers ++ [(o.perform.run.run h).1], (o.perform.run.run h).2)
    -- What the cluster itself answers is nobody's business here.
    | .changed step => (answers, { h with cluster := (step.run h.cluster).2 })

/-- No client learns anything from an engine about the values of Secrets, and none of them gets into a pod, a
ConfigMap, a call, the log or the store: where they differ, everything else stays the same. -/
theorem values_stay_secret (client : Client) {g h : Engine σ} (alike : OpenlyAlike g h) (n : ℕ) :
    (serve client g n).1 = (serve client h n).1 ∧
      OpenlyAlike (serve client g n).2 (serve client h n).2 := by
  -- The induction is on the number of answers; the client is a function of those it has had.
  induction n with
  | zero => exact ⟨rfl, alike⟩
  | succ n ih =>
    obtain ⟨same, after⟩ := ih
    rcases ranLeft : serve client g n with ⟨answers, g'⟩
    rcases ranRight : serve client h n with ⟨answers', h'⟩
    rw [ranLeft, ranRight] at same after
    obtain rfl : answers = answers' := same
    simp only [serve, ranLeft, ranRight]
    -- The client has seen the same so far, and makes the same happen next.
    cases client n answers with
    | asked o =>
      obtain ⟨answer, later⟩ := o.discreet g' h' after
      exact ⟨congrArg (fun last => answers ++ [last]) answer, later⟩
    | changed step =>
      exact ⟨rfl, ⟨after.site.cluster.step step, after.site.log⟩, after.store⟩

/-- An engine without a store, in whose cluster the credentials of the registry have a certain value. -/
def engineWith (password : Bytes) : Engine (Option Memory) :=
  let login : Secret := ⟨metaNamed "login", some (Dict.ofList [(RegistryFile.bare.key, password)]), none, []⟩
  ⟨⟨stockedCluster.insertSecret login, []⟩, none⟩

/-- Whoever schedules a build for the registry with the credentials, and carries it on from then on. -/
def persistentClient : Client := fun _ answers =>
  match answers.getLast? with
  | some (.ok b) => .asked (.move (.reconcile directSettings .epoch) b)
  | _ => .asked (.schedule directSettings .epoch ⟨buildOf [guardedTask], []⟩)

/-- A worker that uses credentials is the same pod for any two values of these. -/
theorem values_stay_secret_guardedTask :
    OpenlyAlike (engineWith [1]) (engineWith [2]) ∧
    (serve persistentClient (engineWith [1]) 2).1 = (serve persistentClient (engineWith [2]) 2).1 ∧
    OpenlyAlike (serve persistentClient (engineWith [1]) 2).2
      (serve persistentClient (engineWith [2]) 2).2 ∧
    (serve persistentClient (engineWith [2]) 2).2.cluster.pods.contains
      (podPlace directSettings (buildOf [guardedTask])) = true := by
  -- The two engines differ in the value of the credentials.
  have alike : OpenlyAlike (engineWith [1]) (engineWith [2]) :=
    ⟨⟨(Cluster.OpenlyAlike.refl stockedCluster).insertSecret rfl, rfl⟩, rfl⟩
  obtain ⟨answers, after⟩ := values_stay_secret persistentClient alike 2
  exact ⟨alike, answers, after, by decide +kernel⟩

end Engine

end ImageBuild
