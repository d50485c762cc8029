import ImageBuild.Proofs.Build.Text
import ImageBuild.Proofs.Store.Refinement

/-! Stores that keep what they have when they refuse a build. -/

namespace ImageBuild

/-- A store of which a refused save leaves alone whatever can be loaded. -/
class SteadyStore (σ : Type) [BuildStore σ] where
  /-- The states that saves lead to. -/
  Sound : σ → Prop
  /-- The names under which a store can have builds. -/
  Admits : σ → Reference → Prop
  /-- A refused save is not seen by later loads. -/
  load_of_refused : ∀ {b : Build} {st : σ} {e : BuildError}, Sound st → Admits st b.reference →
    (BuildStore.save b st).result = .error e → ∀ place, Admits st place →
      BuildStore.load place (BuildStore.save b st).store = BuildStore.load place st

/-- A memory does not change at all. -/
instance : SteadyStore Memory where
  Sound _ := True
  Admits _ _ := True
  load_of_refused := by
    intro b m e _ _ refused place _
    have refused : (m.save b).result = .error e := refused
    exact congrArg (Memory.load place) (Memory.store_of_refused refused)

/-- A directory that holds what has been saved goes on to hold it. -/
instance : SteadyStore Directory where
  Sound d := ∃ r j, d.Tracks r j
  Admits d place := d.Admits place
  load_of_refused := by
    rintro b d e ⟨r, j, tracks⟩ admits refused place admitted
    have refused : (d.save b).result = .error e := refused
    obtain ⟨same, later⟩ := tracks.save admits b.nextVersion.readsBack
    -- The memory beside it refuses the build as well.
    have kept : (BuildStore.save b j).store = j := Journal.save_refused (same.symm.trans refused)
    rw [kept] at later
    exact (later.load (admitted.after (.save b))).trans (tracks.load admitted).symm

/-- A store that is missing refuses nothing. -/
instance {σ : Type} [BuildStore σ] [SteadyStore σ] : SteadyStore (Option σ) where
  Sound st := ∀ s ∈ st, SteadyStore.Sound s
  Admits st place := ∀ s ∈ st, SteadyStore.Admits s place
  load_of_refused := by
    intro b st e sound admits refused place admitted
    cases st with
    | none => cases refused
    | some s =>
      exact SteadyStore.load_of_refused (sound s rfl) (admits s rfl) refused place (admitted s rfl)

end ImageBuild
