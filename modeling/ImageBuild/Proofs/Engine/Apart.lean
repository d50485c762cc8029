import ImageBuild.Proofs.Engine.Cancelled
import ImageBuild.Proofs.Worker.Places
import ImageBuild.Proofs.Worker.Shown

/-! What is done about one build leaves the objects of another alone, unless the two are told apart by nothing but
the case of their names. -/

namespace ImageBuild

open Kubernetes Run Work Worker

namespace Cluster

/-- A pod that is there after a deletion was there before. -/
theorem exists_of_podsWithout {c : Cluster} {p place : Reference} {pod : Pod}
    (there : (c.podsWithout p).get? place = some pod) :
    ∃ old, c.pods.get? place = some old ∧ old.spec = pod.spec := by
  rw [get?_podsWithout] at there
  -- At the place of the deletion a pod is only left where pods linger.
  split at there
  · rename_i same
    split at there
    · -- A pod that lingers is the one that was there before.
      obtain ⟨old, before, rfl⟩ := Option.map_eq_some_iff.mp there
      refine ⟨old, same ▸ before, ?_⟩
      unfold Pod.ended
      split <;> rfl
    · cases there
  · exact ⟨pod, there, rfl⟩

/-- From one cluster to another, no pod came to a place but one that shows only ConfigMaps of fitting names. -/
def ShowsOnly (place : Reference) (Fits : String → Prop) (c d : Cluster) : Prop :=
  ∀ pod, d.pods.get? place = some pod →
    (∃ old, c.pods.get? place = some old ∧ old.spec = pod.spec) ∨ ∀ name, pod.Shows name → Fits name

namespace ShowsOnly

variable {place : Reference} {Fits : String → Prop} {c d e : Cluster}

/-- The same pods came from nowhere. -/
theorem of_pods (same : d.pods = c.pods) : ShowsOnly place Fits c d :=
  fun pod there => .inl ⟨pod, same ▸ there, rfl⟩

/-- A pod came before or later. -/
theorem trans (before : ShowsOnly place Fits c d) (after : ShowsOnly place Fits d e) :
    ShowsOnly place Fits c e := by
  intro pod there
  -- A pod of the end was there in the middle, or is one that fits.
  rcases after pod there with ⟨old, found, same⟩ | fits
  · rcases before old found with ⟨older, foundBefore, sameBefore⟩ | fits
    · exact .inl ⟨older, foundBefore, sameBefore.trans same⟩
    · refine .inr ?_
      rintro name ⟨spec, of_, shown⟩
      exact fits name ⟨spec, same ▸ of_, shown⟩
  · exact .inr fits

/-- More names may fit. -/
theorem mono {Wider : String → Prop} (shows : ShowsOnly place Fits c d)
    (wider : ∀ name, Fits name → Wider name) : ShowsOnly place Wider c d :=
  fun pod there => (shows pod there).imp_right fun fits name shown => wider name (fits name shown)

/-- A deletion brings no pod. -/
theorem podsWithout (p : Reference) : ShowsOnly place Fits c { c with pods := c.podsWithout p } :=
  fun _ there => .inl (exists_of_podsWithout there)

end ShowsOnly

end Cluster

namespace Engine

open Cluster

/-- Who tends the pod of a build makes only calls that concern the build. -/
theorem Tends.makes {s : Settings} {b : Build} {α : Type} {w : Work α} (tends : Tends s b w) :
    Makes (b.Concern s.config.podNamePrefix) w := by
  induction tends with
  | pure a => exact .pure a
  | deletes =>
    exact (Makes.find (.own (.inl rfl)) (Footprint.deletePod _)).bind fun _ => .pure _
  | finds => exact .find (.own (.inl rfl)) (Footprint.of_looks (looks_getPod _))
  | creates needed =>
    -- The pod is created in the place that it was put together for.
    refine ((reads_pod s b).makes.mono fun _ asked => asked.concern).bind_fit (yields_place s b)
      fun built named =>
      (Makes.callUnless _ (.own (.inl ?_)) (Footprint.createPod built)).bind fun _ => .pure _
    exact congrArg some named
  | bind _ _ makesFirst makesLater => exact makesFirst.bind makesLater

/-- A pod that is created for a build shows only what the build admits. -/
theorem showsOnly_create (s : Settings) (b : Build) (c : Cluster) :
    ShowsOnly (podPlace s b) (b.MayShow s.config.podNamePrefix) c
      ((createPod s b).run.run c).2 := by
  have creation := create_cases s b c
  intro pod there
  generalize ((createPod s b).run.run c).1 = result,
    ((createPod s b).run.run c).2.pods = pods at creation there
  -- Only the case in which the pod is made puts anything in its place.
  cases creation with
  | failed e => exact .inl ⟨pod, there, rfl⟩
  | kept taken => exact .inl ⟨pod, there, rfl⟩
  | @made built assembled free =>
    rw [Dict.get?_insert, if_pos rfl] at there
    obtain rfl := Option.some.inj there
    exact .inr (yields_pod s b c _ built (Prod.ext assembled rfl))

/-- Who tends the pod of a build brings no pod but one that shows what the build admits. -/
theorem Tends.showsOnly {s : Settings} {b : Build} {α : Type} {w : Work α} (tends : Tends s b w)
    (c : Cluster) : ShowsOnly (podPlace s b) (b.MayShow s.config.podNamePrefix) c (w.run.run c).2 := by
  suffices Keeps (ShowsOnly (podPlace s b) (b.MayShow s.config.podNamePrefix) c) w from
    this c (.of_pods rfl)
  have noted : ∀ d call, ShowsOnly (podPlace s b) (b.MayShow s.config.podNamePrefix) c d →
      ShowsOnly (podPlace s b) (b.MayShow s.config.podNamePrefix) c (d.called call) :=
    fun _ _ shows => shows
  -- The induction is on the way the pod is tended; only creating it can show anything new.
  induction tends with
  | pure a => exact .pure _ a
  | deletes => exact keeps_delete noted (fun _ p shows => shows.trans (.podsWithout p)) s b
  | finds => exact keeps_find noted s b
  | creates needed => exact fun d shows => shows.trans (showsOnly_create s b d)
  | bind _ _ keepsFirst keepsLater => exact keepsFirst.bind keepsLater

/-- What happened to a cluster while builds in one place were worked on: the calls concern these builds, and the
pods that came show only what these builds admit. -/
structure Tended (stem : String) (place : Reference) (Sources : Build → Prop) (c d : Cluster) : Prop where
  calls : ∃ made, Footprint made c d ∧ ∀ call ∈ made, ∃ x, Sources x ∧ x.Concern stem call
  pods : ShowsOnly place (fun name => ∃ x, Sources x ∧ x.MayShow stem name) c d

namespace Tended

variable {stem : String} {place : Reference} {Sources : Build → Prop} {c d e : Cluster}

/-- Nothing has happened. -/
theorem refl (c : Cluster) : Tended stem place Sources c c :=
  ⟨⟨[], .refl c, nofun⟩, .of_pods rfl⟩

/-- One thing happened after another. -/
theorem trans (before : Tended stem place Sources c d) (after : Tended stem place Sources d e) :
    Tended stem place Sources c e := by
  -- The calls follow one another, and each concerns a build of the sources.
  obtain ⟨made, footprint, concern⟩ := before.calls
  obtain ⟨more, later, alsoConcern⟩ := after.calls
  exact ⟨⟨made ++ more, footprint.trans later, fun call member =>
    (List.mem_append.mp member).elim (concern call) (alsoConcern call)⟩, before.pods.trans after.pods⟩

/-- More builds may have been worked on. -/
theorem mono {Wider : Build → Prop} (tended : Tended stem place Sources c d)
    (wider : ∀ x, Sources x → Wider x) : Tended stem place Wider c d := by
  obtain ⟨made, footprint, concern⟩ := tended.calls
  refine ⟨⟨made, footprint, fun call member => ?_⟩, tended.pods.mono ?_⟩
  · obtain ⟨x, source, concerned⟩ := concern call member
    exact ⟨x, wider x source, concerned⟩
  -- What a source may show, it may show among more sources too.
  · rintro name ⟨x, source, may⟩
    exact ⟨x, wider x source, may⟩

/-- Work for one build. -/
theorem of_makes {α : Type} {x : Build} {w : Work α} (source : Sources x)
    (makes : Makes (x.Concern stem) w) {c : Cluster}
    (shows : ShowsOnly place (x.MayShow stem) c (w.run.run c).2) :
    Tended stem place Sources c (w.run.run c).2 := by
  -- All calls of the work concern the one build.
  obtain ⟨made, concern, footprint⟩ := makes c
  exact ⟨⟨made, footprint, fun call member => ⟨x, source, concern call member⟩⟩,
    shows.mono fun _ may => ⟨x, source, may⟩⟩

end Tended

/-- Tending the pod of a build. -/
theorem Tends.tended {s : Settings} {b : Build} {α : Type} {w : Work α} (tends : Tends s b w)
    {Sources : Build → Prop} (source : Sources b) (c : Cluster) :
    Tended s.config.podNamePrefix (podPlace s b) Sources c (w.run.run c).2 :=
  .of_makes source tends.makes (tends.showsOnly c)

variable {σ : Type} [BuildStore σ]

/-- Whether an operation works on a build: it is the one that the client passes, as it is or as it becomes. -/
def Operation.WorksOn (o : Operation) (x : Build) : Prop :=
  ∃ y, o.source = some y ∧ x.reference = y.reference ∧ x.spec = y.spec

/-- An operation works on the build that it is about. -/
theorem Operation.WorksOn.reference {config : EngineConfig} {b x : Build} {o : Operation}
    (works : o.WorksOn x) (about : o.About config b) : x.reference = b.reference := by
  obtain ⟨y, source, same, -⟩ := works
  refine same.trans ?_
  -- A schedule and a move work on the build that they name, and a load on none.
  cases o with
  | schedule s now d => exact Option.some.inj source ▸ about.2
  | load place => cases source
  | move m c => exact Option.some.inj source ▸ about.2

/-- The cluster once the files of an operation have been kept, or an attempt has been made. -/
def Operation.filed : Operation → Cluster → Cluster
  | schedule s _ d, c => ((Context.replace s.config.podNamePrefix d.build d.files).run.run c).2
  | load _, c => c
  | move _ _, c => c

/-- Once its files are kept, an operation does nothing but to tend the pod of a build that it works on. -/
theorem Operation.tends [FaithfulStore σ] {config : EngineConfig} {b : Build} {o : Operation}
    (about : o.About config b) (g : Engine σ) :
    (o.perform.run.run g).2.cluster = o.filed g.cluster ∨
      ∃ (s : Settings) (x : Build) (α : Type) (w : Work α), s.config = config ∧
        podPlace s x = place config.podNamePrefix b ∧ o.WorksOn x ∧ Tends s x w ∧
        (o.perform.run.run g).2.cluster = (w.run.run (o.filed g.cluster)).2 := by
  -- Whatever version or status is carried on, the pod is that of the same place.
  have placed {s : Settings} {x : Build} (same : s.config = config)
      (reference : x.reference = b.reference) : podPlace s x = place config.podNamePrefix b := by
    rw [podPlace, place, place, same, reference]
  cases o with
  | schedule s now d =>
    rw [perform, filed, cluster_schedule]
    rcases (Context.replace s.config.podNamePrefix d.build d.files).run.run g.cluster with ⟨result, c⟩
    cases result with
    | error e => exact .inl rfl
    | ok done =>
      simp only
      cases saved : (BuildStore.save d.build g.store).result with
      | error e => exact .inl rfl
      | ok r =>
        -- What is carried on is the build of the draft under another version.
        obtain ⟨version, rfl⟩ := FaithfulStore.saved saved
        exact .inr ⟨s, d.build.atVersion version, _, _, about.1, placed about.1 about.2,
          ⟨d.build, rfl, rfl, rfl⟩, tends_stepWork s now (d.build.atVersion version), rfl⟩
  | load p =>
    rw [perform, run_load]
    exact .inl rfl
  | move m x =>
    cases m with
    | reconcile s now =>
      exact .inr ⟨s, x, _, _, about.1, placed about.1 about.2, ⟨x, rfl, rfl, rfl⟩,
        tends_stepWork s now x, cluster_reconcile s now x g⟩
    | cancel s =>
      -- A build that has ended, or cannot be saved as cancelled, keeps its pod.
      have ran := cluster_cancel s x g
      split at ran
      · exact .inl ran
      · cases saved : (BuildStore.save (x.withPhase .cancelled) g.store).result with
        | error e =>
          rw [saved] at ran
          exact .inl ran
        | ok r =>
          rw [saved] at ran
          obtain ⟨version, rfl⟩ := FaithfulStore.saved saved
          exact .inr ⟨s, (x.withPhase .cancelled).atVersion version, _, _, about.1,
            placed about.1 about.2, ⟨x, rfl, rfl, rfl⟩, .deletes, ran⟩

/-- An operation tends the pod of the build that it is about. -/
theorem Operation.tended [FaithfulStore σ] {config : EngineConfig} {b : Build} {o : Operation}
    (about : o.About config b) (g : Engine σ) :
    Tended config.podNamePrefix (place config.podNamePrefix b) o.WorksOn g.cluster
      (o.perform.run.run g).2.cluster := by
  have filed : Tended config.podNamePrefix (place config.podNamePrefix b) o.WorksOn g.cluster
      (o.filed g.cluster) := by
    cases o with
    | schedule s now d =>
      obtain ⟨rfl, -⟩ := about
      exact .of_makes ⟨d.build, rfl, rfl, rfl⟩
        (Context.makes_replace (.own (.inr rfl)) (.own (.inr rfl)) d.files)
        (.of_pods (Context.pods_replace _ _ _ _))
    | load p => exact .refl _
    | move m x => exact .refl _
  -- After the context has been filed nothing but the work on the build remains.
  rcases Operation.tends about g with same | ⟨s, x, α, w, rfl, placed, works, tends, same⟩
  · rw [same]
    exact filed
  · rw [same, ← placed]
    exact (placed ▸ filed).trans (tends.tended works _)

/-- The engine after operations, of which each may have failed. -/
def afterAll (ops : List Operation) (g : Engine σ) : Engine σ :=
  ops.foldl (fun g o => (o.perform.run.run g).2) g

/-- Operations tend the pod of the build that they are about. -/
theorem tended_afterAll [FaithfulStore σ] {config : EngineConfig} {b : Build} (ops : List Operation)
    (about : ∀ o ∈ ops, o.About config b) (g : Engine σ) :
    Tended config.podNamePrefix (place config.podNamePrefix b) (fun x => ∃ o ∈ ops, o.WorksOn x)
      g.cluster (afterAll ops g).cluster := by
  -- The induction is on the operations, from whatever engine the first of them leaves.
  induction ops generalizing g with
  | nil => exact .refl _
  | cons o rest ih =>
    have first := Operation.tended (about o List.mem_cons_self) g
    have later := ih (fun o member => about o (List.mem_cons_of_mem _ member))
      (o.perform.run.run g).2
    refine (first.mono fun x works => ?_).trans (later.mono fun x works => ?_)
    · exact ⟨o, List.mem_cons_self, works⟩
    · obtain ⟨p, member, works⟩ := works
      exact ⟨p, List.mem_cons_of_mem _ member, works⟩

end Engine

/-- A call that concerns one build is no call for the objects of another, except that certificates may be read. -/
theorem Build.Concern.apart {stem : String} {x c : Build} {call : Call}
    (concern : x.Concern stem call) (owned : c.Owns stem call)
    (pods : place stem x ≠ place stem c) (contexts : Context.place stem x ≠ Context.place stem c) :
    call = .getConfigMap (Context.place stem c) ∧
      x.NamesCertificates (Context.place stem c).name := by
  cases concern with
  | own own =>
    -- A call on the objects of the first build is none on those of the second, as all four places differ.
    rcases own with own | own <;> rcases owned with owned | owned
    · exact absurd (Option.some.inj (own.symm.trans owned)) pods
    · cases (Call.configMap?_of_pod? own).symm.trans owned
    · cases (Call.configMap?_of_pod? owned).symm.trans own
    · exact absurd (Option.some.inj (own.symm.trans owned)) contexts
  | credentials named => rcases owned with owned | owned <;> cases owned
  | certificates named =>
    rcases owned with owned | owned
    · cases owned
    · -- The certificates lie just where the context of the other build does.
      have same := Option.some.inj owned
      exact ⟨congrArg Call.getConfigMap same, same ▸ named⟩
  -- The description of the hosts has a place that no context has.
  | registry =>
    rcases owned with owned | owned
    · cases owned
    · exact absurd (Option.some.inj owned).symm (Context.place_ne_hostingPlace stem c)
  | services => rcases owned with owned | owned <;> cases owned

namespace Engine

open Cluster

/-- Builds share their objects just when they are told apart by case alone; else no operations on one of them
touch the objects of the other, unless a task names these for its certificates. -/
theorem objects_apart_but_for_case {σ : Type} [BuildStore σ] [FaithfulStore σ] {r q : BuildRequest}
    {b c : Build} (answered : r.build = .ok b) (otherAnswered : q.build = .ok c)
    (config : EngineConfig) :
    (place config.podNamePrefix b = place config.podNamePrefix c ↔ b.SameButCase c) ∧
    (Context.place config.podNamePrefix b = Context.place config.podNamePrefix c ↔
      b.SameButCase c) ∧
    (¬b.SameButCase c → ∀ ops : List Operation, (∀ o ∈ ops, o.About config b) → ∀ g : Engine σ,
      (∃ made, Footprint made g.cluster (afterAll ops g).cluster ∧
        ∀ call ∈ made, c.Owns config.podNamePrefix call →
          call = .getConfigMap (Context.place config.podNamePrefix c) ∧
          ∃ o ∈ ops, ∃ x, o.source = some x ∧
            x.NamesCertificates (Context.place config.podNamePrefix c).name) ∧
      (afterAll ops g).cluster.pods.get? (place config.podNamePrefix c) =
        g.cluster.pods.get? (place config.podNamePrefix c) ∧
      (afterAll ops g).cluster.configMaps.get? (Context.place config.podNamePrefix c) =
        g.cluster.configMaps.get? (Context.place config.podNamePrefix c) ∧
      ShowsOnly (place config.podNamePrefix b)
        (fun name => ⟨b.reference.scope, name⟩ = Context.place config.podNamePrefix c →
          ∃ o ∈ ops, ∃ x, o.source = some x ∧ x.NamesCertificates name)
        g.cluster (afterAll ops g).cluster) := by
  have named := BuildRequest.isValid_of_build answered
  have otherNamed := BuildRequest.isValid_of_build otherAnswered
  have pods := Worker.place_eq_iff named otherNamed config.podNamePrefix
  have contexts := Context.place_eq_iff named otherNamed config.podNamePrefix
  refine ⟨pods, contexts, fun other ops about g => ?_⟩
  have tended := tended_afterAll ops about g
  obtain ⟨made, footprint, concern⟩ := tended.calls
  -- Whatever the operations work on has the places of the first build.
  have worker : ∀ x, (∃ o ∈ ops, o.WorksOn x) →
      place config.podNamePrefix x = place config.podNamePrefix b := by
    rintro x ⟨o, member, works⟩
    rw [place, place, works.reference (about o member)]
  have context : ∀ x, (∃ o ∈ ops, o.WorksOn x) →
      Context.place config.podNamePrefix x = Context.place config.podNamePrefix b := by
    rintro x ⟨o, member, works⟩
    rw [Context.place, Context.place, works.reference (about o member)]
  -- Certificates are named by the specification, which no operation changes.
  have certified : ∀ x name, (∃ o ∈ ops, o.WorksOn x) → x.NamesCertificates name →
      ∃ o ∈ ops, ∃ y, o.source = some y ∧ y.NamesCertificates name := by
    rintro x name ⟨o, member, y, source, -, spec⟩ ⟨task, inside, names⟩
    exact ⟨o, member, y, source, task, spec ▸ inside, names⟩
  -- The only call that can meet an object of the other build is one that looks for certificates.
  have touched : ∀ call ∈ made, c.Owns config.podNamePrefix call →
      call = .getConfigMap (Context.place config.podNamePrefix c) ∧
      ∃ o ∈ ops, ∃ x, o.source = some x ∧
        x.NamesCertificates (Context.place config.podNamePrefix c).name := by
    intro call member owned
    obtain ⟨x, works, concerned⟩ := concern call member
    obtain ⟨same, names⟩ := concerned.apart owned
      (fun same => other (pods.mp ((worker x works).symm.trans same)))
      (fun same => other (contexts.mp ((context x works).symm.trans same)))
    exact ⟨same, certified x _ works names⟩
  refine ⟨⟨made, footprint, touched⟩, footprint.pods _ ?_ ?_, footprint.configMaps _ ?_ ?_, ?_⟩
  -- None of the calls creates or deletes, since that one only reads.
  · intro created
    cases (touched _ created (.inl rfl)).1
  · intro deleted
    cases (touched _ deleted (.inl rfl)).1
  · intro created
    cases (touched _ created (.inr rfl)).1
  · intro deleted
    cases (touched _ deleted (.inr rfl)).1
  · refine tended.pods.mono ?_
    rintro name ⟨x, works, may⟩ same
    rcases may with rfl | names
    · rw [context x works] at same
      exact absurd (contexts.mp same) other
    · exact certified x name works names

/-- The build of a name. -/
def buildNamed (name : String) : Build := { hastyRequest with name := name }.kanikoBuild

/-- The engine after the build of a name was scheduled and carried on, so that its worker runs. -/
def launchedEngine (name : String) : Engine Memory :=
  afterAll [.schedule usualSettings .epoch ⟨buildNamed name, []⟩,
    .move (.reconcile usualSettings .epoch) (buildNamed name).nextVersion.prepared.nextVersion]
    freshEngine

/-- The schedule of a build leaves the worker of a build of another name alone. -/
theorem objects_apart_but_for_case_web :
    ¬(buildNamed "app").SameButCase (buildNamed "web") ∧
    (∃ pod, (launchedEngine "web").cluster.pods.get? ⟨"ns", "podforge-web-builder"⟩ = some pod) ∧
    (afterAll [.schedule usualSettings .epoch ⟨buildNamed "app", []⟩]
      (launchedEngine "web")).cluster.pods.get? ⟨"ns", "podforge-web-builder"⟩ =
      (launchedEngine "web").cluster.pods.get? ⟨"ns", "podforge-web-builder"⟩ := by
  -- The two names differ in more than their case.
  have other : ¬(buildNamed "app").SameButCase (buildNamed "web") := by decide
  obtain ⟨-, -, apart⟩ := objects_apart_but_for_case (σ := Memory) (b := buildNamed "app")
    (c := buildNamed "web") (r := { hastyRequest with name := "app" })
    (q := { hastyRequest with name := "web" }) rfl rfl .standard
  obtain ⟨-, worker, -⟩ := apart other [.schedule usualSettings .epoch ⟨buildNamed "app", []⟩]
    (fun o member => List.mem_singleton.mp member ▸ ⟨rfl, rfl⟩) (launchedEngine "web")
  exact ⟨other, ⟨_, rfl⟩, worker⟩

/-- Two builds that the store keeps apart by the case of their names share the places of their objects, and the
schedule of the one deletes the worker of the other. -/
theorem namesakes_share_worker :
    { hastyRequest with name := "App" : BuildRequest }.build = .ok (buildNamed "App") ∧
    { hastyRequest with name := "app" : BuildRequest }.build = .ok (buildNamed "app") ∧
    (buildNamed "App").reference.key ≠ (buildNamed "app").reference.key ∧
    place "podforge" (buildNamed "App") = place "podforge" (buildNamed "app") ∧
    Context.place "podforge" (buildNamed "App") = Context.place "podforge" (buildNamed "app") ∧
    (∃ pod, (launchedEngine "App").cluster.pods.get? (place "podforge" (buildNamed "App")) =
      some pod) ∧
    ((schedule usualSettings .epoch ⟨buildNamed "app", []⟩).run.run
      (launchedEngine "App")).2.cluster.pods.get? (place "podforge" (buildNamed "App")) = none := by
  exact ⟨rfl, rfl, by decide, by decide, by decide, ⟨_, rfl⟩, rfl⟩

end Engine

end ImageBuild
