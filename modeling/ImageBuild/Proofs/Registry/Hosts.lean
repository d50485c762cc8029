import ImageBuild.Proofs.Worker.Commands
import ImageBuild.Proofs.Worker.Mounted

/-! Where the address of the registry of a cluster comes from, and when it has no host. -/

namespace ImageBuild

/-- A text is given when there is one, and it is not empty. -/
theorem RegistrySpec.given_eq_some_iff {text : Option String} {s : String} :
    given text = some s ↔ text = some s ∧ s ≠ "" := by
  rw [given, Option.filter_eq_some_iff, Bool.not_eq_true', ← Bool.not_eq_true, String.isEmpty_iff]

namespace Registry

open Kubernetes Run Work Worker

/-- The text in which a cluster describes its registry, if there is one. -/
def description? (c : Cluster) : Option String :=
  (c.configMaps.get? hostingPlace).bind fun map => map.data.bind (·.get? hostingKey)

/-- Whether a cluster describes the host of its registry. -/
def Describes (c : Cluster) (host : String) : Prop :=
  host ≠ "" ∧ ∃ text, description? c = some text ∧ hostOfYaml? text = some (some host)

/-- The Services of the registry addon, in the order in which they are listed. -/
def addons (c : Cluster) : List Service :=
  (c.services.filter fun place s =>
    place.scope = addonScope && Cluster.hasLabels addonLabels s.metadata).values

/-- The address of a Service inside the cluster, if it has one. -/
def clusterIP? (s : Service) : Option String := RegistrySpec.given (s.spec.bind (·.clusterIP))

/-- The first port of a Service, if it has any. -/
def firstPort? (s : Service) : Option Int :=
  ((s.spec.bind (·.ports)).bind List.head?).map ServicePort.port

/-- What an address of a Service ends with: its first port, unless that is none at all or the usual one. -/
inductive PortText (s : Service) : String → Prop
  | unwritten (unfit : ∀ port, firstPort? s = some port → port ≤ 0 ∨ port = 80) : PortText s ""
  | written {port : Int} (first : firstPort? s = some port) (positive : 0 < port)
      (unusual : port ≠ 80) : PortText s (":" ++ toString port)

/-- Whether a text begins with what should come after a host. -/
def Hostless (text : String) : Prop := text.toList.head? = some '/' ∨ text.toList.head? = some ':'

instance (text : String) : Decidable (Hostless text) := inferInstanceAs (Decidable (_ ∨ _))

/-- A text with anything before it begins like that. -/
theorem hostless_append {host : String} (some_ : host ≠ "") (rest : String) :
    Hostless (host ++ rest) ↔ Hostless host := by
  -- The first character decides, and there is one.
  rw [Hostless, Hostless, String.toList_append,
    List.head?_append_of_ne_nil _ (fun empty => some_ (String.toList_eq_nil_iff.mp empty))]

/-- The full name of an image begins like the address before it, but an empty address leaves only the slash. -/
theorem hostless_fullName_iff {address image : String} :
    Hostless (fullName (some address) image) ↔ address = "" ∨ Hostless address := by
  obtain ⟨slashes, same⟩ := Text.eq_trimEndChar_append '/' address
  rw [fullName, String.append_assoc]
  by_cases empty : Text.trimEndChar '/' address = ""
  · -- Nothing but slashes is left out, so that the name begins with the slash before the image.
    rw [empty] at same ⊢
    have begun : Hostless ("" ++ ("/" ++ image)) := by simp [Hostless]
    refine iff_of_true begun ?_
    cases slashes with
    | zero => exact .inl same
    | succ n =>
      rw [same]
      exact .inr (by simp [Hostless, List.replicate_succ])
  -- Otherwise the address begins as it does without its last slashes.
  · have some_ : address ≠ "" := by
      rintro rfl
      exact empty rfl
    rw [hostless_append empty]
    conv_rhs => rw [same]
    rw [hostless_append empty, ← same]
    simp [some_]

/-- The address of a Service is that inside the cluster, or nothing in its place, before the port. -/
theorem exists_portText (s : Service) :
    ∃ port, PortText s port ∧ serviceAddress s = (clusterIP? s).getD "" ++ port := by
  have inside : (s.spec.bind (·.clusterIP)).getD "" = (clusterIP? s).getD "" := by
    rw [clusterIP?, RegistrySpec.given]
    -- An empty text says as much as none.
    rcases s.spec.bind (·.clusterIP) with _ | ip
    · rfl
    · by_cases empty : ip = "" <;> simp [Option.filter, empty]
  have first : ((s.spec.bind (·.ports)).bind List.head?).map ServicePort.port = firstPort? s := rfl
  rw [serviceAddress, inside, first]
  -- Without a port, or with the usual one, nothing follows the host.
  cases there : firstPort? s with
  | none => exact ⟨"", .unwritten (by simp [there]), (String.append_empty).symm⟩
  | some port =>
    by_cases fit : 0 < port ∧ port ≠ 80
    · refine ⟨_, .written there fit.1 fit.2, ?_⟩
      simp [Option.filter, isWritten, fit, String.append_assoc]
    · refine ⟨"", .unwritten fun p same => ?_, by simp [Option.filter, isWritten, fit]⟩
      obtain rfl := Option.some.inj (there.symm.trans same)
      omega

/-- The description of a registry is read as the host that it gives, unless a failure hides the description. -/
theorem hostingAddress_ok {c d : Cluster} {found : Option String}
    (ran : hostingAddress.run.run c = (.ok found, d)) :
    (∃ host, found = some host ∧ Describes c host) ∨
      (found = none ∧ (c.Sincere → ∀ host, ¬Describes c host)) := by
  unfold hostingAddress at ran
  obtain ⟨map, t, looked, ran⟩ := bind_ok ran
  rcases find_configMap_ok looked with rfl | ⟨rfl, insincere⟩
  -- The description is looked up in the map; without one there is no host.
  · split at ran
    · rename_i missing
      have absent : description? c = none := missing
      refine .inr ⟨(pure_ok ran).1, fun _ host ⟨_, text, there, _⟩ => ?_⟩
      rw [absent] at there
      cases there
    · rename_i text there
      have there : description? c = some text := there
      split at ran
      · rename_i written read
        rw [(pure_ok ran).1]
        cases given : RegistrySpec.given written with
        | some host =>
          obtain ⟨rfl, some_⟩ := RegistrySpec.given_eq_some_iff.mp given
          exact .inl ⟨host, rfl, some_, text, there, read⟩
        | none =>
          refine .inr ⟨rfl, fun _ host ⟨some_, other, otherThere, otherRead⟩ => ?_⟩
          -- A host that is described would have been the one that was read.
          obtain rfl := Option.some.inj (there.symm.trans otherThere)
          obtain rfl := Option.some.inj (read.symm.trans otherRead)
          rw [RegistrySpec.given_eq_some_iff.mpr ⟨rfl, some_⟩] at given
          cases given
      · cases ran
  -- Only an insincere cluster answers that the map is missing when it is there.
  · exact .inr ⟨(pure_ok ran).1, fun sincere => absurd sincere insincere⟩

/-- The first Service of the addon has the address that is found. -/
theorem addonAddress_ok {c d : Cluster} {found : Option String}
    (ran : addonAddress.run.run c = (.ok found, d)) :
    found = (addons c).head?.map serviceAddress := by
  -- The first Service that is listed gives the address.
  obtain ⟨services, t, listed, ran⟩ := bind_ok ran
  rw [(pure_ok ran).1]
  rw [run_call, Cluster.looks_listServices] at listed
  have answered := (Prod.mk.inj listed).1
  cases fault : c.fault? with
  | some e =>
    rw [fault] at answered
    cases answered
  | none =>
    rw [fault] at answered
    rw [← Except.ok.inj answered]
    rfl

/-- Looking for the description leaves the Services as they are. -/
theorem addons_of_hostingAddress (c : Cluster) : addons (hostingAddress.run.run c).2 = addons c := by
  -- The search for a hosting address only reads.
  have reads : Reads (fun _ => True) hostingAddress := reads_hostingAddress trivial
  exact reads.keeps (P := fun d => addons d = addons c) (fun _ _ same => same) c rfl

/-- An address that is found is the host that is described or, if there is none, the address of the first Service. -/
theorem address_ok {c d : Cluster} {found : Option String}
    (ran : address.run.run c = (.ok found, d)) :
    (∃ host, found = some host ∧ Describes c host) ∨
      ((c.Sincere → ∀ host, ¬Describes c host) ∧ found = (addons c).head?.map serviceAddress) := by
  -- The hosting address is preferred, and the addon is looked up only without one.
  obtain ⟨hosted, t, looked, ran⟩ := bind_ok ran
  have services := addons_of_hostingAddress c
  rw [looked] at services
  rcases hostingAddress_ok looked with ⟨host, rfl, describes⟩ | ⟨rfl, undescribed⟩
  · exact .inl ⟨host, (pure_ok ran).1, describes⟩
  · exact .inr ⟨undescribed, services ▸ addonAddress_ok ran⟩

/-- Where no call fails, the search fails only because of a description that cannot be read. -/
theorem exists_address {c : Cluster} (calm : c.faults = [])
    (readable : ∀ text, description? c = some text → hostOfYaml? text ≠ none) :
    ∃ found d, address.run.run c = (.ok found, d) := by
  have unhindered : c.fault? = none := by rw [Cluster.fault?, calm]; rfl
  -- Without failures the first call is answered, and a readable text gives a host or none.
  have hosted : ∃ found,
      hostingAddress.run.run c = (.ok found, c.called (.getConfigMap hostingPlace)) := by
    have looked : (Work.find (Cluster.getConfigMap hostingPlace)).run.run c =
        (.ok (c.configMaps.get? hostingPlace), c.called (.getConfigMap hostingPlace)) := by
      rw [Work.find, run_callUnless, Cluster.looks_getConfigMap, unhindered]
      simp only
      cases c.configMaps.get? hostingPlace <;> rfl
    rw [hostingAddress, run_bind, looked]
    simp only
    split
    · exact ⟨_, rfl⟩
    · rename_i text there
      obtain ⟨host, read⟩ := Option.ne_none_iff_exists'.mp (readable text there)
      rw [read]
      exact ⟨_, rfl⟩
  obtain ⟨found, looked⟩ := hosted
  have later : (c.called (.getConfigMap hostingPlace)).fault? = none := by
    rw [Cluster.fault?, Cluster.faults_called, calm]
    rfl
  rw [address, run_bind, looked]
  -- With a host no second call is made.
  cases found with
  | some host => exact ⟨_, _, rfl⟩
  | none =>
    simp only
    rw [addonAddress, run_bind, run_call, Cluster.looks_listServices, later]
    exact ⟨_, _, rfl⟩

/-- An address of a Service has a host just if the Service has one. -/
theorem hostless_served_iff {s : Service} {port image : String} (text : PortText s port) :
    Hostless (fullName (some ((clusterIP? s).getD "" ++ port)) image) ↔
      ∀ ip, clusterIP? s = some ip → Hostless ip := by
  rw [hostless_fullName_iff]
  cases there : clusterIP? s with
  | none =>
    refine iff_of_true ?_ nofun
    -- What is left is nothing at all, or the port behind its colon.
    cases text with
    | unwritten => exact .inl rfl
    | written => exact .inr (.inr (by simp))
  | some ip =>
    have some_ : ip ≠ "" := (RegistrySpec.given_eq_some_iff.mp there).2
    rw [Option.getD_some, hostless_append some_, String.append_eq_empty_iff]
    simp [some_]

/-- What is found is the host that the cluster describes or, if it describes none, the address of the first Service of
the registry addon, if there is one: its address inside the cluster, which may be missing, before a port. So an image in
that registry has a name that begins with a host just if that host is no path or port itself, or if the Service has an
address. Where no call fails and any description can be read, the search has a result. -/
theorem address_is_hostless_iff (c : Cluster) :
    (∀ found d, address.run.run c = (.ok found, d) →
      (∃ host, found = some host ∧ Describes c host ∧
        ∀ image, Hostless (fullName found image) ↔ Hostless host) ∨
      (c.Sincere → ∀ host, ¬Describes c host) ∧
        ((addons c = [] ∧ found = none) ∨
          ∃ s rest port, addons c = s :: rest ∧ PortText s port ∧
            found = some ((clusterIP? s).getD "" ++ port) ∧
            ∀ image, Hostless (fullName found image) ↔ ∀ ip, clusterIP? s = some ip → Hostless ip)) ∧
    (c.faults = [] → (∀ text, description? c = some text → hostOfYaml? text ≠ none) →
      ∃ found d, address.run.run c = (.ok found, d)) := by
  refine ⟨fun found d ran => ?_, exists_address⟩
  -- The address is that of the hosting description, or else that of the first addon.
  rcases address_ok ran with ⟨host, rfl, describes⟩ | ⟨undescribed, rfl⟩
  · refine .inl ⟨host, rfl, describes, fun image => ?_⟩
    rw [hostless_fullName_iff, or_iff_right describes.1]
  · refine .inr ⟨undescribed, ?_⟩
    cases listed : addons c with
    | nil => exact .inl ⟨rfl, rfl⟩
    | cons s rest =>
      obtain ⟨port, text, same⟩ := exists_portText s
      rw [List.head?_cons, Option.map_some, same]
      exact .inr ⟨s, rest, port, rfl, text, rfl, fun image => hostless_served_iff text⟩

/-- A Service of the registry addon. -/
def addon (ip : Option String) (port : Int) : Service :=
  ⟨{ Meta.none with name := some "registry", scope := some addonScope, labels := some addonLabels },
    some ⟨ip, some [⟨port, []⟩], []⟩, []⟩

/-- A cluster with nothing but a Service of the registry addon. -/
def addonCluster (ip : Option String) (port : Int) : Cluster :=
  (Cluster.empty .epoch).insertService (addon ip port)

/-- An addon with an address in the cluster makes full names of images that begin with it. -/
theorem address_is_hostless_iff_addonCluster :
    let c := addonCluster (some "10.96.12.4") 5000
    (∃ found d, address.run.run c = (.ok found, d)) ∧
    (∃ d, address.run.run c = (.ok (some "10.96.12.4:5000"), d)) ∧
    ∀ image, ¬Hostless (fullName (some "10.96.12.4:5000") image) := by
  intro c
  obtain ⟨sound, total⟩ := address_is_hostless_iff c
  -- No hosts are described in this cluster, and its one addon has an address.
  have undescribed : description? c = none := rfl
  have ran : address.run.run c = (.ok (some "10.96.12.4:5000"), _) := rfl
  refine ⟨total rfl fun text there => ?_, ⟨_, ran⟩, fun image hostless => ?_⟩
  · rw [undescribed] at there
    cases there
  · rcases sound _ _ ran with
      ⟨_, _, ⟨_, _, there, _⟩, _⟩ | ⟨_, ⟨_, absent⟩ | ⟨s, _, _, listed, _, _, same⟩⟩
    · rw [undescribed] at there
      cases there
    · cases absent
    · have services : addons c = [addon (some "10.96.12.4") 5000] := rfl
      rw [services] at listed
      obtain ⟨rfl, -⟩ := List.cons.inj listed
      -- The address of the Service would have to begin without a host.
      exact absurd ((same image).mp hostless "10.96.12.4" rfl) (by decide)

/-- An addon without an address in the cluster still makes one, and full names of images that begin with a slash or
with a port. -/
theorem addon_without_address_is_found :
    (∀ port, ∀ s ∈ addons (addonCluster none port), clusterIP? s = none) ∧
    (address.run.run (addonCluster none 80)).1 = .ok (some "") ∧
    fullName (some "") "app" = "/app" ∧
    (address.run.run (addonCluster none 5000)).1 = .ok (some ":5000") ∧
    fullName (some ":5000") "app" = ":5000/app" := by
  refine ⟨fun port s member => ?_, rfl, by decide, rfl, by decide⟩
  -- The one addon of this cluster has the address that was given to it.
  have services : addons (addonCluster none port) = [addon none port] := rfl
  rw [services, List.mem_singleton] at member
  rw [member]
  rfl

end Registry

end ImageBuild
