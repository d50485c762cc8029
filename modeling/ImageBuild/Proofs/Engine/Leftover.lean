import ImageBuild.Proofs.Engine.Apart
import ImageBuild.Proofs.Worker.Assembly
import ImageBuild.Proofs.Worker.Mounted
import Mathlib.Logic.Relation

/-! A context that an earlier build of the name has left: a schedule without files does not remove it, so that the
workers of the new build get it mounted. -/

namespace ImageBuild

open Cluster Kubernetes Run Work Worker

namespace Engine

/-- From one cluster to another while builds were tended: the data are still the same, and a pod that came to a place
was put together from them for one of the builds. -/
structure Brings (stem : String) (place : Reference) (Sources : Build → Prop) (c d : Cluster) : Prop where
  kept : c.KeepsData d
  pods : ∀ pod, d.pods.get? place = some pod →
    (∃ old, c.pods.get? place = some old ∧ old.spec = pod.spec) ∨
      ∃ s x e built f, s.config.podNamePrefix = stem ∧ Sources x ∧ c.KeepsData e ∧
        (Worker.pod s x).run.run e = (.ok built, f) ∧ built.spec = pod.spec

namespace Brings

variable {stem : String} {place : Reference} {Sources : Build → Prop} {c d e : Cluster}

/-- The same pods came from nowhere. -/
theorem of_pods (kept : c.KeepsData d) (same : d.pods = c.pods) : Brings stem place Sources c d :=
  ⟨kept, fun pod there => .inl ⟨pod, same ▸ there, rfl⟩⟩

/-- A pod came before or later. -/
theorem trans (before : Brings stem place Sources c d) (after : Brings stem place Sources d e) :
    Brings stem place Sources c e := by
  refine ⟨before.kept.trans after.kept, fun pod there => ?_⟩
  -- A pod of the end was brought by one of the two parts, or by neither.
  rcases after.pods pod there with ⟨old, found, same⟩ | ⟨s, x, u, built, v, named, source, kept, ran, same⟩
  · rcases before.pods old found with
      ⟨older, found, earlier⟩ | ⟨s, x, u, built, v, named, source, kept, ran, earlier⟩
    · exact .inl ⟨older, found, earlier.trans same⟩
    · exact .inr ⟨s, x, u, built, v, named, source, kept, ran, earlier.trans same⟩
  · exact .inr ⟨s, x, u, built, v, named, source, before.kept.trans kept, ran, same⟩

/-- A call that is noted brings nothing. -/
theorem called (brings : Brings stem place Sources c d) (call : Call) :
    Brings stem place Sources c (d.called call) :=
  ⟨brings.kept.called call, brings.pods⟩

/-- A deletion brings nothing. -/
theorem podsWithout (brings : Brings stem place Sources c d) (p : Reference) :
    Brings stem place Sources c { d with pods := d.podsWithout p } :=
  brings.trans ⟨⟨⟨rfl, rfl⟩, fun _ => id⟩, fun _ there => .inl (exists_of_podsWithout there)⟩

end Brings

section

variable {s : Settings} {b : Build} {Sources : Build → Prop} (source : Sources b)

include source

/-- The creation of the pod of a build brings the one that was put together for it, if any. -/
theorem brings_create (c : Cluster) :
    Brings s.config.podNamePrefix (podPlace s b) Sources c ((createPod s b).run.run c).2 := by
  have kept : c.KeepsData ((createPod s b).run.run c).2 :=
    keeps_create (P := c.KeepsData) (fun _ call kept => kept.called call)
      (fun _ _ _ kept => ⟨⟨kept.secrets, kept.configMaps⟩, kept.faults⟩) s b c (.refl c)
  refine ⟨kept, fun pod there => ?_⟩
  -- A pod that is not there before has been put together just now.
  have creation := create_cases s b c
  generalize ((createPod s b).run.run c).1 = result,
    ((createPod s b).run.run c).2.pods = pods at creation there
  cases creation with
  | failed e => exact .inl ⟨pod, there, rfl⟩
  | kept taken => exact .inl ⟨pod, there, rfl⟩
  | @made built assembled free =>
    rw [Dict.get?_insert, if_pos rfl] at there
    obtain rfl := Option.some.inj there
    exact .inr ⟨s, b, c, built, _, rfl, source, .refl c, Prod.ext assembled rfl, rfl⟩

/-- Who tends the pod of a build brings no other pods than those put together for it. -/
theorem Tends.brings {α : Type} {w : Work α} (tends : Tends s b w) (c : Cluster) :
    Brings s.config.podNamePrefix (podPlace s b) Sources c (w.run.run c).2 := by
  -- What is brought since the start is kept by each of the things that a tender does.
  suffices Keeps (Brings s.config.podNamePrefix (podPlace s b) Sources c) w from
    this c (.of_pods (.refl c) rfl)
  induction tends with
  | pure a => exact .pure _ a
  | deletes =>
    exact keeps_delete (fun _ call brings => brings.called call)
      (fun _ p brings => brings.podsWithout p) s b
  | finds => exact keeps_find (fun _ call brings => brings.called call) s b
  | creates needed => exact fun d brings => brings.trans (brings_create source d)
  | bind _ _ keepsFirst keepsLater => exact keepsFirst.bind keepsLater

end

/-- The files that an operation brings along. -/
def Operation.files : Operation → List ContextFile
  | schedule _ _ d => d.files
  | load _ => []
  | move _ _ => []

/-- An operation without files keeps none. -/
theorem Operation.filed_of_fileless {o : Operation} (fileless : o.files = []) (c : Cluster) :
    o.filed c = c := by
  -- Without files nothing is filed.
  cases o with
  | schedule s now d =>
    rw [filed, show d.files = [] from fileless]
    rfl
  | load p => rfl
  | move m x => rfl

variable {σ : Type} [BuildStore σ]

/-- An operation without files brings only pods that are put together for the build that it works on. -/
theorem Operation.brings [FaithfulStore σ] {config : EngineConfig} {b : Build} {o : Operation}
    (about : o.About config b) (fileless : o.files = []) (g : Engine σ) :
    Brings config.podNamePrefix (place config.podNamePrefix b) o.WorksOn g.cluster
      (o.perform.run.run g).2.cluster := by
  -- What is left of the operation is the work on the build.
  rcases Operation.tends about g with same | ⟨s, x, α, w, rfl, placed, works, tends, same⟩ <;>
    rw [same, Operation.filed_of_fileless fileless]
  · exact .of_pods (.refl _) rfl
  · rw [← placed]
    exact tends.brings works _

/-- What may happen while nobody else touches the context of a build: operations on the build that bring no files, and
anything that leaves the context as it is. -/
inductive Passes (config : EngineConfig) (b : Build) : Engine σ → Engine σ → Prop
  | operation {o : Operation} (about : o.About config b) (fileless : o.files = []) (g : Engine σ) :
      Passes config b g (o.perform.run.run g).2
  | elsewhere {g h : Engine σ}
      (same : h.cluster.configMaps.get? (Context.place config.podNamePrefix b)
        = g.cluster.configMaps.get? (Context.place config.podNamePrefix b)) : Passes config b g h

section

variable [FaithfulStore σ] {config : EngineConfig} {b : Build} {g h : Engine σ}

/-- The context of the build stays. -/
theorem Passes.context (passes : Passes config b g h) :
    h.cluster.configMaps.get? (Context.place config.podNamePrefix b)
      = g.cluster.configMaps.get? (Context.place config.podNamePrefix b) := by
  -- Work on builds writes no ConfigMaps.
  cases passes with
  | operation about fileless => rw [(Operation.brings about fileless g).kept.configMaps]
  | elsewhere same => exact same

/-- The context of the build stays through all of it. -/
theorem context_of_passes (passes : Relation.ReflTransGen (Passes config b) g h) :
    h.cluster.configMaps.get? (Context.place config.podNamePrefix b)
      = g.cluster.configMaps.get? (Context.place config.podNamePrefix b) := by
  -- The induction is on what passes.
  induction passes with
  | refl => rfl
  | tail _ last ih => exact last.context.trans ih

/-- A pod that an operation creates has the context that the cluster has, once for each task. -/
theorem contextVolumes_of_created {o : Operation} (about : o.About config b) (fileless : o.files = [])
    {pod : Pod} (vacant : g.cluster.pods.get? (place config.podNamePrefix b) = none)
    (there : (o.perform.run.run g).2.cluster.pods.get? (place config.podNamePrefix b) = some pod) :
    ∃ x spec, o.source = some x ∧ pod.spec = some spec ∧
      (∀ v ∈ contextVolumes (spec.volumes.getD []),
        ∃ map, g.cluster.configMaps.get? (Context.place config.podNamePrefix b) = some map ∧
          v = Context.volume config.podNamePrefix b map) ∧
      ∀ map, g.cluster.configMaps.get? (Context.place config.podNamePrefix b) = some map →
        g.cluster.Sincere → contextVolumes (spec.volumes.getD [])
          = List.replicate x.spec.tasks.length (Context.volume config.podNamePrefix b map) := by
  -- The place was vacant, so that the pod has been brought by this operation.
  rcases (Operation.brings about fileless g).pods pod there with
    ⟨old, before, -⟩ | ⟨s, x, e, built, f, named, works, kept, ran, same⟩
  · cases vacant.symm.trans before
  · obtain ⟨spec, made, only, each⟩ := contextVolumes_of_pod ran
    -- What the pod is put together for has the name of the build, and so its context.
    have placed : Context.place s.config.podNamePrefix x = Context.place config.podNamePrefix b := by
      rw [Context.place, Context.place, named, works.reference about]
    have volume : Context.volume s.config.podNamePrefix x = Context.volume config.podNamePrefix b :=
      funext fun map => by rw [Context.volume, Context.volume, placed]
    rw [placed, volume, kept.configMaps] at only each
    obtain ⟨y, source, -, tasks⟩ := works
    refine ⟨y, spec, source, same.symm.trans made, only, fun map found sincere => ?_⟩
    rw [each map found (kept.sincere sincere), tasks]

end

/-- The volumes for a context that a pod has which an operation creates after a schedule without files, as long as
nobody else touches the context: one for each task if a context was there before the schedule, and none otherwise. -/
theorem leftover_context_is_mounted [FaithfulStore σ] {s : Settings} {now : Instant} {d : Draft}
    (bare : d.files = []) {g h : Engine σ}
    (later : Relation.ReflTransGen (Passes s.config d.build) ((schedule s now d).run.run g).2 h)
    {o : Operation} (about : o.About s.config d.build) (fileless : o.files = []) {pod : Pod}
    (vacant : h.cluster.pods.get? (podPlace s d.build) = none)
    (there : (o.perform.run.run h).2.cluster.pods.get? (podPlace s d.build) = some pod) :
    ∃ x spec, o.source = some x ∧ pod.spec = some spec ∧
      match g.cluster.configMaps.get? (Context.place s.config.podNamePrefix d.build) with
      | none => contextVolumes (spec.volumes.getD []) = []
      | some map => h.cluster.Sincere → contextVolumes (spec.volumes.getD [])
          = List.replicate x.spec.tasks.length (Context.volume s.config.podNamePrefix d.build map) := by
  -- The schedule itself is one more thing that leaves the context as it is.
  have scheduled : Passes s.config d.build g ((schedule s now d).run.run g).2 :=
    .operation (o := .schedule s now d) ⟨rfl, rfl⟩ bare g
  have context := context_of_passes (later.head scheduled)
  obtain ⟨x, spec, source, made, only, each⟩ := contextVolumes_of_created about fileless vacant there
  refine ⟨x, spec, source, made, ?_⟩
  rw [context] at only each
  -- What was there before the schedule is what the pod shows.
  cases found : g.cluster.configMaps.get? (Context.place s.config.podNamePrefix d.build) with
  | none =>
    refine List.eq_nil_iff_forall_not_mem.mpr fun v inside => ?_
    obtain ⟨map, there, -⟩ := only v inside
    cases found.symm.trans there
  | some map => exact each map found

/-- The context of an earlier build. -/
def leftoverMap : ConfigMap :=
  ⟨metaNamed "podforge-app-context", some (Dict.ofList [("Dockerfile", "FROM first")]), none, []⟩

/-- An engine in whose cluster an earlier build has left its context. -/
def leftoverEngine : Engine Memory :=
  { freshEngine with cluster := freshEngine.cluster.insertConfigMap leftoverMap }

/-- The new build once it is scheduled. -/
def filelessBuild : Build := (buildNamed "app").nextVersion.prepared.nextVersion

/-- The engine once the new build is scheduled without files. -/
def filelessEngine : Engine Memory :=
  ((schedule usualSettings .epoch ⟨buildNamed "app", []⟩).run.run leftoverEngine).2

/-- The worker of the new build gets the one volume with the context of the earlier build. -/
theorem leftover_context_is_mounted_filelessBuild :
    filelessEngine.cluster.pods.get? ⟨"ns", "podforge-app-builder"⟩ = none ∧
    ∃ pod spec, ((reconcile usualSettings .epoch filelessBuild).run.run filelessEngine).2.cluster.pods.get?
        ⟨"ns", "podforge-app-builder"⟩ = some pod ∧ pod.spec = some spec ∧
      contextVolumes (spec.volumes.getD []) = [Context.volume "podforge" (buildNamed "app") leftoverMap] := by
  -- The map is that of an earlier build with the same name.
  obtain ⟨pod, there⟩ : ∃ pod, ((reconcile usualSettings .epoch filelessBuild).run.run
      filelessEngine).2.cluster.pods.get? ⟨"ns", "podforge-app-builder"⟩ = some pod := ⟨_, rfl⟩
  refine ⟨rfl, pod, ?_⟩
  obtain ⟨x, spec, source, made, mounted⟩ := leftover_context_is_mounted (s := usualSettings)
    (d := ⟨buildNamed "app", []⟩) (o := .move (.reconcile usualSettings .epoch) filelessBuild)
    rfl (g := leftoverEngine) .refl ⟨rfl, rfl⟩ rfl rfl there
  obtain rfl := Option.some.inj source
  exact ⟨spec, there, made, mounted fun _ planned => absurd planned List.not_mem_nil⟩

/-- A build is scheduled without files, and its worker gets a volume with the context of an earlier build. -/
theorem fileless_build_gets_leftover_context :
    ((schedule usualSettings .epoch ⟨buildNamed "app", []⟩).run.run leftoverEngine).1
      = .ok filelessBuild ∧
    filelessEngine.cluster.pods.get? ⟨"ns", "podforge-app-builder"⟩ = none ∧
    ∃ pod spec, ((reconcile usualSettings .epoch filelessBuild).run.run filelessEngine).2.cluster.pods.get?
        ⟨"ns", "podforge-app-builder"⟩ = some pod ∧ pod.spec = some spec ∧
      ∃ v ∈ spec.volumes.getD [], v.name = Context.volumeName :=
  ⟨rfl, rfl, _, _, rfl, rfl, _, List.mem_cons_self, rfl⟩

end Engine

end ImageBuild
