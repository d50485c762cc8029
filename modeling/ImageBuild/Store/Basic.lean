import ImageBuild.Build.Error
import ImageBuild.Log

/-! Stores of builds. A build can be saved only by whoever knows its last version. -/

namespace ImageBuild

/-- What saving a build has come to. -/
structure Saved (σ : Type) where
  result : Except BuildError Build
  store : σ
  events : List Log.Event

/-- A store, from which builds are loaded by name. -/
class BuildStore (σ : Type) where
  load : Reference → σ → Except BuildError Build
  save : Build → σ → Saved σ

namespace Build

/-- The build as it is saved next. -/
def nextVersion (b : Build) : Build := { b with version := b.version + 1 }

/-- The conflict of a build with the version that is stored, if there is one. A build that is not stored
counts as version zero. -/
def conflict? (b : Build) (stored : Option Build) : Option BuildError :=
  let version := (stored.map Build.version).getD 0
  if version = b.version then none else some (.conflict b.reference.key version b.version)

end Build

/-- A store that may be missing: then nothing is saved. -/
instance {σ : Type} [BuildStore σ] : BuildStore (Option σ) where
  load place
    | some store => BuildStore.load place store
    | none => .error (.notFound place.key)
  save b
    | some store =>
      let saved := BuildStore.save b store
      ⟨saved.result, some saved.store, saved.events⟩
    -- Without a store a build is as good as saved.
    | none => ⟨.ok b, none, []⟩

end ImageBuild
