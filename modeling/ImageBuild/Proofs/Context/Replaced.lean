import ImageBuild.Proofs.Cluster.Footprint
import ImageBuild.Proofs.Context.Contents

/-! The files of a build between the call that keeps them and the worker that they are mounted into. -/

namespace ImageBuild.Context

open Kubernetes Cluster Run Work

/-- Files that are refused cause no call. -/
theorem run_replace_refused {stem : String} {b : Build} {files : List ContextFile} {e : BuildError}
    (refused : Contents.ofFiles files = .error e) (c : Cluster) :
    (replace stem b files).run.run c = (.error e, c) := by
  -- No files are never refused, so that there is at least one.
  cases files with
  | nil => cases refused
  | cons file rest =>
    unfold replace
    rw [if_neg (by simp), refused]
    rfl

/-- Files that are accepted cause two calls, of which the second follows only where the first has not failed. -/
theorem run_replace_accepted {stem : String} {b : Build} {files : List ContextFile}
    {contents : Contents} (some_ : files ≠ []) (accepted : Contents.ofFiles files = .ok contents)
    (c : Cluster) :
    (replace stem b files).run.run c =
      match (Work.find (deleteConfigMap (place stem b))).run.run c with
      | (.error e, d) => (.error e, d)
      | (.ok _, d) =>
        let created := (Work.call (createConfigMap (configMap stem b contents))).run.run d
        (created.1.map fun _ => (), created.2) := by
  unfold replace
  rw [if_neg (by simpa using some_), accepted]
  -- That the files are accepted is no step of its own.
  change (Work.find (deleteConfigMap (place stem b)) >>= fun _ =>
    Work.call (createConfigMap (configMap stem b contents)) >>= fun _ => pure ()).run.run c = _
  rw [run_bind]
  rcases (Work.find (deleteConfigMap (place stem b))).run.run c with ⟨result, d⟩
  cases result with
  | error e => rfl
  | ok found =>
    simp only
    rw [run_bind]
    rcases (Work.call (createConfigMap (configMap stem b contents))).run.run d with ⟨result, t⟩
    cases result <;> rfl

/-- What the attempt to keep files can come to: its result, and what is in the place of the context then. -/
inductive Replaced (stem : String) (b : Build) (files : List ContextFile) (old : Option ConfigMap) :
    Except BuildError Unit → Option ConfigMap → Prop
  /-- There is nothing to keep. -/
  | idle (nothing : files = []) : Replaced stem b files old (.ok ()) old
  /-- The files are refused, or a call has failed before anything was changed. -/
  | failed (e : BuildError) : Replaced stem b files old (.error e) old
  /-- The last context is gone, and no other one could be created. -/
  | lost (e : BuildError) : Replaced stem b files old (.error e) none
  /-- The context is that of the files. -/
  | kept {contents : Contents} (accepted : Contents.ofFiles files = .ok contents) :
      Replaced stem b files old (.ok ()) (some (configMap stem b contents))

/-- A deletion that fails changes nothing, and after any other one the ConfigMap is gone or was not looked at. -/
private theorem find_delete_cases (p : Reference) (c : Cluster) :
    (((Work.find (deleteConfigMap p)).run.run c).2.configMaps.get? p = c.configMaps.get? p) ∨
      ((∃ found, ((Work.find (deleteConfigMap p)).run.run c).1 = .ok found) ∧
        ((Work.find (deleteConfigMap p)).run.run c).2.configMaps.get? p = none) := by
  rw [Work.find, Work.run_callUnless, run_deleteConfigMap]
  cases c.fault? with
  | some e => exact .inl rfl
  | none =>
    simp only
    -- The map was there and is gone now, or there was none to begin with.
    split
    · exact .inr ⟨⟨_, rfl⟩, by simp⟩
    · exact .inl rfl

/-- A creation that fails changes nothing, and after any other one the ConfigMap is there. -/
private theorem create_cases (map : ConfigMap) (c : Cluster) :
    (∃ e, ((Work.call (createConfigMap map)).run.run c).1 = .error e ∧
        ((Work.call (createConfigMap map)).run.run c).2.configMaps = c.configMaps) ∨
      (∃ made, ((Work.call (createConfigMap map)).run.run c).1 = .ok made ∧
        ((Work.call (createConfigMap map)).run.run c).2.configMaps.get? map.reference =
          some map) := by
  rw [Work.run_call, run_createConfigMap]
  cases c.fault? with
  | some e => exact .inl ⟨_, rfl, rfl⟩
  | none =>
    simp only
    -- A map that is still there is a conflict, and nothing is written over it.
    split
    · exact .inl ⟨_, rfl, rfl⟩
    · exact .inr ⟨_, rfl, by simp⟩

/-- The attempt to keep files comes to nothing else. -/
theorem replace_cases (stem : String) (b : Build) (files : List ContextFile) (c : Cluster) :
    Replaced stem b files (c.configMaps.get? (place stem b)) ((replace stem b files).run.run c).1
      (((replace stem b files).run.run c).2.configMaps.get? (place stem b)) := by
  by_cases nothing : files = []
  · subst nothing
    exact .idle rfl
  cases accepted : Contents.ofFiles files with
  | error e =>
    rw [run_replace_refused accepted]
    exact .failed e
  | ok contents =>
    -- The old map is deleted before the new one is created, and either call may fail.
    have deletion := find_delete_cases (place stem b) c
    rw [run_replace_accepted nothing accepted]
    rcases deleted : (Work.find (deleteConfigMap (place stem b))).run.run c with ⟨result, d⟩
    rw [deleted] at deletion
    simp only at deletion
    cases result with
    | error e =>
      rcases deletion with same | ⟨⟨found, failed⟩, -⟩
      · simp only
        rw [same]
        exact .failed e
      · cases failed
    | ok found =>
      simp only
      rcases create_cases (configMap stem b contents) d with ⟨e, failed, same⟩ | ⟨made, done, there⟩
      · rw [failed, same]
        -- Where the creation fails the old map may be lost already.
        rcases deletion with old | ⟨-, gone⟩
        · rw [old]
          exact .failed e
        · rw [gone]
          exact .lost e
      · rw [done, show place stem b = (configMap stem b contents).reference from rfl, there]
        exact .kept accepted

/-- Once files are kept, the ConfigMap of the build is theirs, whatever was in its place before. -/
theorem replace_ok {stem : String} {b : Build} {files : List ContextFile} (some_ : files ≠ [])
    {c d : Cluster} (ran : (replace stem b files).run.run c = (.ok (), d)) :
    ∃ contents, Contents.ofFiles files = .ok contents ∧
      d.configMaps.get? (place stem b) = some (configMap stem b contents) := by
  -- Of the ways in which a replacement ends, only one succeeds with files.
  have replaced := replace_cases stem b files c
  rw [ran] at replaced
  generalize d.configMaps.get? (place stem b) = left at replaced
  cases replaced with
  | idle nothing => exact absurd nothing some_
  | kept accepted => exact ⟨_, accepted, rfl⟩

/-- Files are kept in the context of the build. -/
theorem makes_replace {Allowed : Call → Prop} {stem : String} {b : Build}
    (created : Allowed (.createConfigMap (place stem b)))
    (deleted : Allowed (.deleteConfigMap (place stem b))) (files : List ContextFile) :
    Makes Allowed (replace stem b files) := by
  unfold replace
  split
  · exact .pure _
  -- The files are gone through first, which makes no call.
  · refine Makes.bind ?_ fun contents =>
      (Makes.find deleted (Footprint.deleteConfigMap _)).bind fun _ =>
        (Makes.call created ?_).bind fun _ => .pure _
    · cases Contents.ofFiles files with
      | error e => exact .throw e
      | ok contents => exact .pure contents
    · exact Footprint.createConfigMap (configMap stem b contents)

/-- Files are kept by a deletion and a creation, if by any calls at all. -/
theorem replace_calls (stem : String) (b : Build) (files : List ContextFile) (c : Cluster) :
    ∃ made, (∀ call ∈ made,
        call = .deleteConfigMap (place stem b) ∨ call = .createConfigMap (place stem b)) ∧
      Footprint made c ((replace stem b files).run.run c).2 :=
  makes_replace (.inr rfl) (.inl rfl) files c

/-- Keeping the files of a build leaves the pods alone. -/
theorem pods_replace (stem : String) (b : Build) (files : List ContextFile) (c : Cluster) :
    ((replace stem b files).run.run c).2.pods = c.pods := by
  obtain ⟨made, own, footprint⟩ := replace_calls stem b files c
  -- Neither of the two calls is for a pod.
  refine Dict.ext_get? fun p => footprint.pods p (fun member => ?_) (fun member => ?_)
  · rcases own _ member with call | call <;> cases call
  · rcases own _ member with call | call <;> cases call

/-- A ConfigMap that is there is mounted, unless the call for it fails. -/
theorem run_mount {stem : String} {b : Build} {c : Cluster} {map : ConfigMap}
    (there : c.configMaps.get? (place stem b) = some map) (directory : String) (m : Worker.Mounts) :
    (mount stem b directory m).run.run c =
      (match c.fault? with
        | some e => if e.isNotFound then .ok m else .error (.cluster e)
        | none => .ok (m.add (.ofConfigMap volumeName (.of (place stem b).name (files map)))
            (.of volumeName directory)),
      c.called (.getConfigMap (place stem b))) := by
  unfold mount
  rw [run_bind, Work.find, Work.run_callUnless, looks_getConfigMap]
  -- A map that is said to be missing is not mounted, and any other failure is passed on.
  cases c.fault? with
  | some e =>
    simp only
    cases e.isNotFound <;> rfl
  | none =>
    simp only [there]
    rfl

/-- A text in a directory, and bytes under a name that only looks like the path of the text. -/
def twoFiles : List ContextFile := [⟨"/src/app", [104, 105]⟩, ⟨"src_app", [255]⟩]

/-- A build to which nothing has happened. -/
def contextBuild : Build := ⟨⟨"ns", "app"⟩, 0, ⟨[], .pod, .zero⟩, .fresh⟩

end ImageBuild.Context
