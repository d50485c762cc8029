import ImageBuild.Proofs.Cluster.Calls

/-! What some work leaves behind in a cluster: the calls that it made, and no other change than these make. -/

namespace ImageBuild

open Kubernetes Cluster Run

/-- Whether a call is there to change a cluster. -/
def Call.isWrite : Call → Bool
  | createPod _ | deletePod _ | createConfigMap _ | deleteConfigMap _ => true
  | getPod _ | getSecret _ | getConfigMap _ | listServices _ => false

namespace Cluster

/-- One cluster becomes another by some calls: these are noted, each uses up what is planned for it, and an
object that none of them creates or deletes stays. -/
structure Footprint (made : List Call) (c d : Cluster) : Prop where
  calls : d.calls = made.foldl remember c.calls
  faults : d.faults = c.faults.drop made.length
  secrets : d.secrets = c.secrets
  services : d.services = c.services
  lingering : d.lingering = c.lingering
  clock : d.clock = c.clock
  pods : ∀ p, .createPod p ∉ made → .deletePod p ∉ made → d.pods.get? p = c.pods.get? p
  configMaps : ∀ p, .createConfigMap p ∉ made → .deleteConfigMap p ∉ made →
    d.configMaps.get? p = c.configMaps.get? p

namespace Footprint

/-- No calls at all change nothing. -/
theorem refl (c : Cluster) : Footprint [] c c :=
  ⟨rfl, rfl, rfl, rfl, rfl, rfl, fun _ _ _ => rfl, fun _ _ _ => rfl⟩

/-- Later calls leave their footprint beside that of the first ones. -/
theorem trans {first later : List Call} {c d e : Cluster} (before : Footprint first c d)
    (after : Footprint later d e) : Footprint (first ++ later) c e where
  -- The calls are joined, and a place that neither part writes to is left alone by both.
  calls := by rw [after.calls, before.calls, List.foldl_append]
  faults := by rw [after.faults, before.faults, List.drop_drop, List.length_append]
  secrets := after.secrets.trans before.secrets
  services := after.services.trans before.services
  lingering := after.lingering.trans before.lingering
  clock := after.clock.trans before.clock
  pods p created deleted := by
    simp only [List.mem_append, not_or] at created deleted
    exact (after.pods p created.2 deleted.2).trans (before.pods p created.1 deleted.1)
  configMaps p created deleted := by
    simp only [List.mem_append, not_or] at created deleted
    exact (after.configMaps p created.2 deleted.2).trans (before.configMaps p created.1 deleted.1)

/-- A call by itself is only noted. -/
theorem called (c : Cluster) (call : Call) : Footprint [call] c (c.called call) :=
  ⟨rfl, rfl, rfl, rfl, rfl, rfl, fun _ _ _ => rfl, fun _ _ _ => rfl⟩

/-- A call that only reads leaves nothing but its note. -/
theorem of_looks {α : Type} {call : ClusterM α} {record : Call}
    {answer : Cluster → Except ClusterError α} (looks : Looks call record answer) (c : Cluster) :
    Footprint [record] c (call.run.run c).2 := by
  -- A call that only looks leaves nothing but its record.
  rw [looks c]
  exact called c record

/-- The creation of a pod touches that pod. -/
theorem createPod (pod : Pod) (c : Cluster) :
    Footprint [.createPod pod.reference] c ((Cluster.createPod pod).run.run c).2 := by
  rw [run_createPod]
  split
  -- A failure and a name that is taken leave the record only.
  · exact called c _
  · split
    · exact called c _
    · refine { called c (.createPod pod.reference) with pods := fun p other _ => ?_ }
      have other : p ≠ pod.reference := fun same => other (by rw [same]; exact List.mem_singleton.mpr rfl)
      simp [other]

/-- The deletion of a pod touches that pod. -/
theorem deletePod (place : Reference) (c : Cluster) :
    Footprint [.deletePod place] c ((Cluster.deletePod place).run.run c).2 := by
  rw [run_deletePod]
  split
  · exact called c _
  -- Only the pod at the place itself can be marked or gone.
  · refine { called c (.deletePod place) with pods := fun p _ other => ?_ }
    have other : p ≠ place := fun same => other (by rw [same]; exact List.mem_singleton.mpr rfl)
    exact (c.get?_podsWithout place p).trans (if_neg other)

/-- The creation of a ConfigMap touches that ConfigMap. -/
theorem createConfigMap (map : ConfigMap) (c : Cluster) :
    Footprint [.createConfigMap map.reference] c ((Cluster.createConfigMap map).run.run c).2 := by
  rw [run_createConfigMap]
  split
  -- As with a pod: a failure or a taken name leaves the record only.
  · exact called c _
  · split
    · exact called c _
    · refine { called c (.createConfigMap map.reference) with configMaps := fun p other _ => ?_ }
      have other : p ≠ map.reference := fun same => other (by rw [same]; exact List.mem_singleton.mpr rfl)
      simp [other]

/-- The deletion of a ConfigMap touches that ConfigMap. -/
theorem deleteConfigMap (place : Reference) (c : Cluster) :
    Footprint [.deleteConfigMap place] c ((Cluster.deleteConfigMap place).run.run c).2 := by
  rw [run_deleteConfigMap]
  split
  · exact called c _
  · split
    -- Where the object is there it is erased, and every other place keeps what it has.
    · refine { called c (.deleteConfigMap place) with configMaps := fun p _ other => ?_ }
      have other : p ≠ place := fun same => other (by rw [same]; exact List.mem_singleton.mpr rfl)
      simp [other]
    · exact called c _

end Footprint

end Cluster

namespace Work

variable {α β : Type} {Allowed : Call → Prop}

/-- Work of which every result fits. -/
def Yields (Fits : α → Prop) (w : Work α) : Prop :=
  ∀ (c d : Cluster) (a : α), w.run.run c = (.ok a, d) → Fits a

namespace Yields

/-- That there is a result says nothing about it. -/
theorem any (w : Work α) : Yields (fun _ => True) w := fun _ _ _ _ => trivial

/-- A value by itself is the result. -/
theorem pure {Fits : α → Prop} {a : α} (fits : Fits a) : Yields Fits (Pure.pure a : Work α) := by
  -- The work ends at once with the value it was given.
  intro c d r ran
  rw [(pure_ok ran).1]
  exact fits

/-- The result of joined work is that of its last part. -/
theorem bind {First : α → Prop} {Fits : β → Prop} {w : Work α} {k : α → Work β}
    (first : Yields First w) (later : ∀ a, First a → Yields Fits (k a)) : Yields Fits (w >>= k) := by
  -- The second part starts from a value that the first one has been shown to yield.
  intro c d r ran
  obtain ⟨a, t, begun, ended⟩ := bind_ok ran
  exact later a (first c t a begun) t d r ended

/-- Whatever the first part comes to may be all the same to the last one. -/
theorem after {Fits : β → Prop} (w : Work α) {k : α → Work β} (later : ∀ a, Yields Fits (k a)) :
    Yields Fits (w >>= k) :=
  (any w).bind fun a _ => later a

/-- What fits at first still fits after a list has been gone through. -/
theorem foldlM {Fits : β → Prop} {f : β → α → Work β} {l : List α}
    (each : ∀ b, Fits b → ∀ a ∈ l, Yields Fits (f b a)) {b : β} (fits : Fits b) :
    Yields Fits (l.foldlM f b) := by
  -- The induction is on the list: what fits after one step is where the rest starts from.
  induction l generalizing b with
  | nil => exact pure fits
  | cons a rest ih =>
    rw [List.foldlM_cons]
    exact (each b fits a List.mem_cons_self).bind fun next fits =>
      ih (fun b fits o member => each b fits o (List.mem_cons_of_mem _ member)) fits

end Yields

/-- Work that makes no other calls than allowed ones, and changes nothing but by them. -/
def Makes (Allowed : Call → Prop) (w : Work α) : Prop :=
  ∀ c, ∃ made, (∀ call ∈ made, Allowed call) ∧ Footprint made c (w.run.run c).2

namespace Makes

/-- A value by itself needs no calls. -/
theorem pure (a : α) : Makes Allowed (Pure.pure a) := fun c => ⟨[], nofun, .refl c⟩

/-- A failure by itself needs no calls. -/
theorem throw (e : BuildError) : Makes Allowed (MonadExcept.throw e : Work α) :=
  fun c => ⟨[], nofun, .refl c⟩

/-- Later work need only be looked at for results of the first work that fit. -/
theorem bind_fit {Fits : α → Prop} {w : Work α} {k : α → Work β} (first : Makes Allowed w)
    (yields : Yields Fits w) (later : ∀ a, Fits a → Makes Allowed (k a)) :
    Makes Allowed (w >>= k) := by
  intro c
  obtain ⟨made, allowed, before⟩ := first c
  rw [run_bind]
  rcases ran : w.run.run c with ⟨result, d⟩
  rw [ran] at before
  -- After an error the second part does not run, and its calls are not made.
  cases result with
  | error e => exact ⟨made, allowed, before⟩
  | ok a =>
    -- What is allowed after the first part may depend on what that part yields.
    obtain ⟨more, alsoAllowed, after⟩ := later a (yields c d a ran) d
    refine ⟨made ++ more, fun call member => ?_, before.trans after⟩
    exact (List.mem_append.mp member).elim (allowed call) (alsoAllowed call)

/-- Joined work makes the calls of its parts. -/
theorem bind {w : Work α} {k : α → Work β} (first : Makes Allowed w)
    (later : ∀ a, Makes Allowed (k a)) : Makes Allowed (w >>= k) :=
  first.bind_fit (.any w) fun a _ => later a

/-- One call, whatever is made of its failure. -/
private theorem of_footprint {call : ClusterM α} {record : Call} (allowed : Allowed record)
    (leaves : ∀ c, Footprint [record] c (call.run.run c).2) :
    Makes Allowed (outcome call) := fun c => by
  -- The only call made is the one recorded.
  refine ⟨[record], fun other member => ?_, leaves c⟩
  rw [List.mem_singleton.mp member]
  exact allowed

/-- One call, whose failure ends the work. -/
theorem call {call : ClusterM α} {record : Call} (allowed : Allowed record)
    (leaves : ∀ c, Footprint [record] c (call.run.run c).2) : Makes Allowed (Work.call call) := by
  refine (of_footprint allowed leaves).bind fun result => ?_
  -- Neither branch after the call touches the cluster.
  cases result with
  | ok answer => exact .pure answer
  | error e => exact .throw _

/-- One call, of which some failures are answers. -/
theorem callUnless {call : ClusterM α} {record : Call} (harmless : ClusterError → Bool)
    (allowed : Allowed record) (leaves : ∀ c, Footprint [record] c (call.run.run c).2) :
    Makes Allowed (Work.callUnless harmless call) := by
  refine (of_footprint allowed leaves).bind fun result => ?_
  -- Whether the error is harmless or not, no further call is made.
  cases result with
  | ok answer => exact .pure _
  | error e =>
    simp only
    split
    · exact .pure _
    · exact .throw _

/-- One call for an object that may be missing. -/
theorem find {call : ClusterM α} {record : Call} (allowed : Allowed record)
    (leaves : ∀ c, Footprint [record] c (call.run.run c).2) : Makes Allowed (Work.find call) :=
  callUnless _ allowed leaves

/-- What is allowed can be widened. -/
theorem mono {Wider : Call → Prop} {w : Work α} (makes : Makes Allowed w)
    (wider : ∀ call, Allowed call → Wider call) : Makes Wider w := fun c => by
  -- The calls stay the same, and what allows them is wider.
  obtain ⟨made, allowed, leaves⟩ := makes c
  exact ⟨made, fun call member => wider call (allowed call member), leaves⟩

end Makes

/-- Work that asks for changes of a fitting kind, whatever it reads beside them. -/
def Writes (Fits : List Call → Prop) (w : Work α) : Prop :=
  ∀ c, ∃ made, Fits (made.filter Call.isWrite) ∧ Footprint made c (w.run.run c).2

/-- Work that changes nothing. -/
abbrev Quiet (w : Work α) : Prop := Makes (fun call => call.isWrite = false) w

namespace Writes

variable {Fits : List Call → Prop}

/-- Among calls that change nothing there is none that asks for a change. -/
theorem filter_quiet {made : List Call} (quiet : ∀ call ∈ made, call.isWrite = false) :
    made.filter Call.isWrite = [] := by
  -- None of the calls passes the filter.
  rw [List.filter_eq_nil_iff]
  intro call member
  simp [quiet call member]

/-- Work that changes nothing asks for no changes. -/
theorem of_quiet {w : Work α} (quiet : Quiet w) (nothing : Fits []) : Writes Fits w := by
  -- The calls are reads, so there are no writes to fit.
  intro c
  obtain ⟨made, reads, footprint⟩ := quiet c
  exact ⟨made, (filter_quiet reads).symm ▸ nothing, footprint⟩

/-- One call asks for no more than itself, whatever is made of its failure. -/
theorem callUnless {call : ClusterM α} {record : Call} (harmless : ClusterError → Bool)
    (fits : Fits [record]) (write : record.isWrite = true)
    (leaves : ∀ c, Footprint [record] c (call.run.run c).2) :
    Writes Fits (Work.callUnless harmless call) := by
  -- The call is the only one, and it is a write.
  intro c
  refine ⟨[record], ?_, ?_⟩
  · rw [List.filter_cons_of_pos write]
    exact fits
  · rw [run_callUnless]
    exact leaves c

/-- What follows may be left out of account when it changes nothing. -/
theorem bind_quiet {w : Work α} {k : α → Work β} (first : Writes Fits w)
    (later : ∀ a, Quiet (k a)) : Writes Fits (w >>= k) := by
  intro c
  obtain ⟨made, fits, before⟩ := first c
  rw [run_bind]
  rcases ran : w.run.run c with ⟨result, d⟩
  rw [ran] at before
  -- The reads of the second part do not count among the writes.
  cases result with
  | error e => exact ⟨made, fits, before⟩
  | ok a =>
    obtain ⟨more, reads, after⟩ := later a d
    refine ⟨made ++ more, ?_, before.trans after⟩
    -- Of the two halves of the record the later one has no writes.
    rw [List.filter_append, filter_quiet reads, List.append_nil]
    exact fits

/-- What comes first may be left out of account when it changes nothing, and only its fitting results count. -/
theorem quiet_bind {First : α → Prop} {w : Work α} {k : α → Work β} (first : Quiet w)
    (yields : Yields First w) (nothing : Fits []) (later : ∀ a, First a → Writes Fits (k a)) :
    Writes Fits (w >>= k) := by
  intro c
  obtain ⟨made, reads, before⟩ := first c
  rw [run_bind]
  rcases ran : w.run.run c with ⟨result, d⟩
  rw [ran] at before
  -- When the reads fail nothing has been written.
  cases result with
  | error e => exact ⟨made, (filter_quiet reads).symm ▸ nothing, before⟩
  | ok a =>
    obtain ⟨more, fits, after⟩ := later a (yields c d a ran) d
    refine ⟨made ++ more, ?_, before.trans after⟩
    -- Here the earlier half has no writes.
    rw [List.filter_append, filter_quiet reads, List.nil_append]
    exact fits

end Writes

end Work

end ImageBuild
