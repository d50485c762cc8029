import ImageBuild.Command.Session
import ImageBuild.Proofs.Store.Refinement
import ImageBuild.Proofs.Worker.Places

/-! The keys of builds on the command line: whose key is read as the place that it was written for. -/

namespace ImageBuild

/-- Whether a namespace can be told from the name after it: there is one, and it is no path. -/
def Reference.Addressable (place : Reference) : Prop :=
  place.scope ≠ "" ∧ '/' ∉ place.scope.toList

instance (place : Reference) : Decidable place.Addressable := inferInstanceAs (Decidable (_ ∧ _))

/-- A name that a build may have is not empty. -/
theorem Name.ne_empty_of_isValid {name : String} (valid : isValid name = true) : name ≠ "" := by
  -- The empty text is refused by the rules of names.
  rintro rfl
  cases valid

namespace Command

variable {place : Reference} {text : String}

/-- A text is cut into the parts of a place just if it is its key, and the namespace ends at the first slash. -/
theorem splitOnce?_eq_some_iff {scope name : String} :
    Text.splitOnce? '/' text = some (scope, name) ↔
      text = (⟨scope, name⟩ : Reference).key ∧ '/' ∉ scope.toList := by
  -- A key is the namespace, the first slash and the name, in this order.
  have joined : (⟨scope, name⟩ : Reference).key.toList = scope.toList ++ '/' :: name.toList := by
    simp [Reference.key]
  rw [← String.toList_inj, joined, ← Text.splitFirst?_eq_some_iff, Text.splitOnce?]
  simp [← String.toList_inj]

/-- Just the keys of addressable places are read, and each of them as the place that it was written for. -/
theorem keyOfText?_eq_some_iff : keyOfText? text = some place ↔
    text = place.key ∧ place.Addressable ∧ place.name ≠ "" ∧ '/' ∉ place.name.toList := by
  unfold keyOfText?
  constructor
  · intro read
    split at read
    · rename_i scope name cut
      split at read
      · cases read
      · rename_i fit
        obtain rfl := Option.some.inj read
        obtain ⟨written, whole⟩ := splitOnce?_eq_some_iff.mp cut
        -- The three refusals are an empty namespace, an empty name and a second slash.
        simp only [Bool.or_eq_true, String.isEmpty_iff, List.contains_iff_mem, not_or] at fit
        exact ⟨written, ⟨fit.1.1, whole⟩, fit.1.2, fit.2⟩
    · cases read
  -- A text of that shape is cut at its only slash.
  · rintro ⟨written, ⟨some_, whole⟩, named, wholeName⟩
    simp [splitOnce?_eq_some_iff.mpr ⟨written, whole⟩, some_, named, wholeName]

/-- The key of a place whose name is no path is read as that place or, if the namespace is not addressable, refused. -/
theorem placeOf_key (named : place.name ≠ "") (whole : '/' ∉ place.name.toList) :
    placeOf place.key = if place.Addressable then .ok place else .error (badKey place.key) := by
  unfold placeOf
  split_ifs with addressable
  · rw [keyOfText?_eq_some_iff.mpr ⟨rfl, addressable, named, whole⟩]
  · have unread : keyOfText? place.key = none := by
      rw [Option.eq_none_iff_forall_ne_some]
      intro other read
      obtain ⟨same, otherAddressable, -, otherWhole⟩ := keyOfText?_eq_some_iff.mp read
      -- Another place with the same key would be the same place.
      obtain rfl := Reference.eq_of_key whole otherWhole same
      exact addressable otherAddressable
    rw [unread]

end Command

open Command

/-- The key of a build that answers a request is read as the namespace of its platform and the name that was asked for,
provided that there is a namespace and that it has no slash; any other key is refused with a message that quotes it.
Builds of different places have different keys in any case. -/
theorem builds_are_addressed_iff {r q : BuildRequest} {b c : Build} (answered : r.build = .ok b)
    (otherAnswered : q.build = .ok c) :
    placeOf b.reference.key =
      (if r.platform.reference.scope ≠ "" ∧ '/' ∉ r.platform.reference.scope.toList then
        .ok ⟨r.platform.reference.scope, r.name⟩
      else .error (badKey b.reference.key)) ∧
    (b.reference.key = c.reference.key ↔ b.reference = c.reference) := by
  -- Names of builds that were answered are valid, so they have no slash and are not empty.
  have valid := BuildRequest.isValid_of_build answered
  have otherValid := BuildRequest.isValid_of_build otherAnswered
  refine ⟨?_, fun same => ?_, fun same => by rw [same]⟩
  · obtain ⟨task, rfl⟩ := BuildRequest.build_ok answered
    exact placeOf_key (Name.ne_empty_of_isValid valid) (Name.whole_of_isValid valid)
  -- The name is what follows the last slash, so the key tells the namespace as well.
  · exact Reference.eq_of_key (Name.whole_of_isValid valid) (Name.whole_of_isValid otherValid) same

/-- A request for a name in a namespace. -/
def requestIn (scope name : String) : BuildRequest :=
  ⟨"image", name, ⟨⟨scope, "platform"⟩, .unspecified⟩⟩

/-- The key of a build in a namespace is read, and that of a build of the same name in a path of namespaces is not. -/
theorem builds_are_addressed_iff_teamApp :
    (requestIn "team" "app").build = .ok (requestIn "team" "app").kanikoBuild ∧
    (requestIn "team/blue" "app").build = .ok (requestIn "team/blue" "app").kanikoBuild ∧
    placeOf "team/app" = .ok ⟨"team", "app"⟩ ∧
    placeOf "team/blue/app" = .error (badKey "team/blue/app") ∧
    (requestIn "team" "app").kanikoBuild.reference.key ≠
      (requestIn "team/blue" "app").kanikoBuild.reference.key := by
  -- One namespace is plain, and the other has a slash.
  have near : (requestIn "team" "app").build = .ok (requestIn "team" "app").kanikoBuild := rfl
  have far : (requestIn "team/blue" "app").build = .ok (requestIn "team/blue" "app").kanikoBuild := rfl
  obtain ⟨read, apart⟩ := builds_are_addressed_iff near far
  obtain ⟨refused, -⟩ := builds_are_addressed_iff far near
  exact ⟨near, far, read, refused, fun same => absurd (apart.mp same) (by decide)⟩

/-- A platform need not name a namespace. A build without one is made, but its key is refused. -/
theorem build_without_namespace_is_lost :
    (requestIn "" "app").build = .ok (requestIn "" "app").kanikoBuild ∧
    (requestIn "" "app").kanikoBuild.reference = ⟨"", "app"⟩ ∧
    (requestIn "" "app").kanikoBuild.reference.key = "/app" ∧
    placeOf "/app" = .error (badKey "/app") := by
  exact ⟨rfl, rfl, rfl, by decide⟩

end ImageBuild
