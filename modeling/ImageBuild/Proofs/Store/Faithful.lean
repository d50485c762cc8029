import ImageBuild.Proofs.Run
import ImageBuild.Store.Directory
import ImageBuild.Store.Memory

/-! Stores give a build back as it was saved, but for its version. -/

namespace ImageBuild

/-- The build under another version. -/
def Build.atVersion (b : Build) (version : UInt64) : Build := { b with version := version }

@[simp] theorem Build.phase_atVersion (b : Build) (version : UInt64) :
    (b.atVersion version).phase = b.phase := rfl

@[simp] theorem Build.status_atVersion (b : Build) (version : UInt64) :
    (b.atVersion version).status = b.status := rfl

@[simp] theorem Build.spec_atVersion (b : Build) (version : UInt64) :
    (b.atVersion version).spec = b.spec := rfl

/-- A store that changes nothing of the builds it saves but their version. -/
class FaithfulStore (σ : Type) [BuildStore σ] : Prop where
  /-- What was saved is the build under some version. -/
  saved : ∀ {b r : Build} {st : σ}, (BuildStore.save b st).result = .ok r →
    ∃ version, r = b.atVersion version

open Run

/-- A build is in no conflict only with the version that it has. -/
theorem Build.conflict?_eq_none {b : Build} {stored : Option Build}
    (current : b.conflict? stored = none) : (stored.map Build.version).getD 0 = b.version := by
  simpa [conflict?] using current

/-- The memory saves a build under its next version, and only if it knows the last one. -/
theorem Memory.of_saved {b r : Build} {m : Memory} (saved : (m.save b).result = .ok r) :
    ((m.load b.reference).toOption.map Build.version).getD 0 = b.version ∧ r = b.nextVersion := by
  unfold save at saved
  split at saved
  · cases saved
  · rename_i current
    refine ⟨?_, (Except.ok.inj saved).symm⟩
    -- Loading finds just the build with which a conflict could have been.
    rw [← Build.conflict?_eq_none current, load]
    cases m.builds.get? b.reference.key <;> rfl

/-- The memory gives the next version back. -/
instance : FaithfulStore Memory where
  -- A memory keeps the build with the next version.
  saved := by
    intro b r m saved
    have saved : (m.save b).result = .ok r := saved
    exact ⟨b.version + 1, (Memory.of_saved saved).2⟩

/-- The steps of a save in a directory end with the next version. -/
theorem Directory.saveSteps_ok {d : Directory} {b r : Build} {t u : FileTree × List Log.Event}
    (ran : (d.saveSteps b).run.run t = (.ok r, u)) : r = b.nextVersion := by
  -- The files are written first, and only their failures could end the steps before.
  unfold saveSteps at ran
  obtain ⟨_, _, _, ran⟩ := bind_ok ran
  obtain ⟨_, _, _, ran⟩ := bind_ok ran
  obtain ⟨_, _, _, ran⟩ := bind_ok ran
  obtain ⟨_, _, _, ran⟩ := bind_ok ran
  exact (pure_ok ran).1

/-- A directory gives the next version back. -/
instance : FaithfulStore Directory where
  saved := by
    intro b r d saved
    change (d.save b).result = .ok r at saved
    -- What is returned is the result of the steps, whatever was written.
    unfold Directory.save at saved
    rcases ran : (d.saveSteps b).run.run (d.files, []) with ⟨result, files, events⟩
    rw [ran] at saved
    change result = .ok r at saved
    subst saved
    exact ⟨b.version + 1, Directory.saveSteps_ok ran⟩

/-- Without a store the build stays under its version. -/
instance {σ : Type} [BuildStore σ] [FaithfulStore σ] : FaithfulStore (Option σ) where
  saved := by
    intro b r st saved
    -- Without a store the build is handed back as it was.
    cases st with
    | none => exact ⟨b.version, (Except.ok.inj saved).symm⟩
    | some st =>
      have kept : (BuildStore.save b st).result = .ok r := saved
      exact FaithfulStore.saved kept

end ImageBuild
