import ImageBuild.Proofs.Build.Text
import ImageBuild.Proofs.Store.Refinement

/-! Stores that answer as a memory does, of which a journal can be kept. -/

namespace ImageBuild

/-- A store that answers as a memory does where the same has been saved. -/
class LedgerStore (σ : Type) [BuildStore σ] where
  /-- The store holds what a journal says. -/
  Holds : σ → Journal Memory → Prop
  /-- The names under which a store can have builds. -/
  Admits : σ → Reference → Prop
  /-- A build is saved as the memory saves it, and the journal goes on. -/
  save : ∀ {st : σ} {j : Journal Memory} {b : Build}, Holds st j → Admits st b.reference →
    (BuildStore.save b st).result = (BuildStore.save b j).result ∧
      Holds (BuildStore.save b st).store (BuildStore.save b j).store
  /-- A build is loaded as the memory loads it. -/
  load : ∀ {st : σ} {j : Journal Memory} {place : Reference}, Holds st j → Admits st place →
    BuildStore.load place st = BuildStore.load place j
  /-- A save takes no name away. -/
  admits : ∀ {st : σ} {b : Build} {place : Reference}, Admits st place →
    Admits (BuildStore.save b st).store place
  /-- There is nothing to tell of a save. -/
  events : ∀ {st : σ} {j : Journal Memory} {b : Build}, Holds st j → Admits st b.reference →
    (BuildStore.save b st).events = []

/-- A memory is one. -/
instance : LedgerStore Memory where
  -- A memory is its own record, and a save of it reports nothing.
  Holds m j := j.store = m
  Admits _ _ := True
  save := by
    rintro m j b rfl _
    exact ⟨rfl, rfl⟩
  load := by
    rintro m j place rfl _
    rfl
  admits := id
  events := by
    intro m j b _ _
    change (m.save b).events = []
    unfold Memory.save
    cases b.conflict? (m.builds.get? b.reference.key) <;> rfl

/-- A store that is there is as good as the store by itself. -/
instance {σ : Type} [BuildStore σ] [LedgerStore σ] : LedgerStore (Option σ) where
  -- With a store the laws are those of the store.
  Holds st j := ∃ s, st = some s ∧ LedgerStore.Holds s j
  Admits st place := ∀ s, st = some s → LedgerStore.Admits s place
  save := by
    rintro _ j b ⟨s, rfl, holds⟩ admits
    obtain ⟨same, later⟩ := LedgerStore.save holds (admits s rfl)
    exact ⟨same, _, rfl, later⟩
  load := by
    rintro _ j place ⟨s, rfl, holds⟩ admits
    exact LedgerStore.load (σ := σ) holds (admits s rfl)
  admits := by
    rintro (_ | s) b place admits u same
    · cases same
    · exact Option.some.inj same ▸ LedgerStore.admits (admits s rfl)
  events := by
    rintro _ j b ⟨s, rfl, holds⟩ admits
    exact LedgerStore.events (σ := σ) holds (admits s rfl)

/-- A directory finds no lock of another writer where nothing but builds has been saved. -/
theorem Directory.Tracks.events {d : Directory} {r : Path} {j : Journal Memory} {b : Build} (tracks : d.Tracks r j)
    (admits : d.Admits b.reference) : (d.save b).events = [] := by
  -- No lock is in the way of a directory that is tracked, so nothing is reported about a stale one.
  obtain ⟨u, ran, _⟩ := run_saveSteps [] admits rfl (tracks.readable b.reference)
    tracks.toRooted (tracks.files _ admits.toWhole) (tracks.rooms _ admits.toWhole) rfl
  rw [save_of_run ran]

/-- A directory that has been used for builds only is one. -/
instance : LedgerStore Directory where
  -- What a directory does is what the memory beside it does, as long as it is tracked.
  Holds d j := ∃ r, d.Tracks r j
  Admits d place := d.Admits place
  save := by
    rintro d j b ⟨r, tracks⟩ admits
    obtain ⟨same, later⟩ := tracks.save admits b.nextVersion.readsBack
    exact ⟨same, r, later⟩
  load := by
    rintro d j place ⟨r, tracks⟩ admits
    exact tracks.load admits
  admits := fun {d b place} admits => admits.after (.save b)
  events := by
    rintro d j b ⟨r, tracks⟩ admits
    exact tracks.events admits

/-- The phase of a build in a store, where a build that has not been saved is new. -/
def phaseIn {σ : Type} [BuildStore σ] (place : Reference) (st : σ) : Phase :=
  ((BuildStore.load place st).toOption.map Build.phase).getD .new

/-- The phase of a build in a store is the one in its journal. -/
theorem LedgerStore.phaseIn_eq {σ : Type} [BuildStore σ] [LedgerStore σ] {st : σ} {j : Journal Memory}
    {place : Reference} (holds : Holds st j) (admits : Admits st place) :
    phaseIn place st = phaseIn place j := by
  rw [phaseIn, phaseIn, load holds admits]

namespace Journal

/-- A journal has grown by so many saves at most. -/
def GrownBy (n : ℕ) (j k : Journal Memory) : Prop := ∃ es, k.saves = j.saves ++ es ∧ es.length ≤ n

variable {i j k : Journal Memory} {m n : ℕ}

/-- A journal that stays as it is has grown by nothing. -/
theorem GrownBy.refl (n : ℕ) (j : Journal Memory) : GrownBy n j j := ⟨[], by simp, Nat.zero_le n⟩

/-- A journal that grows twice has grown by no more than both. -/
theorem GrownBy.trans (first : GrownBy m i j) (later : GrownBy n j k) : GrownBy (m + n) i k := by
  -- The two lists of new saves follow one another.
  obtain ⟨es, grown, few⟩ := first
  obtain ⟨fs, grownOn, fewer⟩ := later
  refine ⟨es ++ fs, by rw [grownOn, grown, List.append_assoc], ?_⟩
  rw [List.length_append]
  omega

/-- No key has lost a save, and none has more of them by now than the journal has grown by. -/
theorem GrownBy.savesOf (grown : GrownBy n j k) (key : String) :
    (j.savesOf key).length ≤ (k.savesOf key).length ∧
      (k.savesOf key).length ≤ (j.savesOf key).length + n := by
  -- Of the new saves at most all are under the key.
  obtain ⟨es, grown, few⟩ := grown
  have fewer := List.length_filter_le (fun e : Save => decide (e.stored.reference.key = key)) es
  simp only [Journal.savesOf, grown, List.filter_append, List.length_append]
  omega

/-- A build as it may have been handed out: it was saved, or it has not begun yet. -/
structure Issued (j : Journal Memory) (b : Build) : Prop where
  known : j.Knows b
  /-- Only a build that was never saved has no version, as long as versions do not run out. -/
  fresh : (j.savesOf b.reference.key).length < 2 ^ 64 → b.version = 0 → b.phase = .new

/-- What was handed out stays so when more is saved. -/
theorem Issued.mono {b : Build} (issued : j.Issued b) (grown : GrownBy n j k) : k.Issued b := by
  -- A longer list knows the build too, and has at least as many saves of its key.
  refine ⟨?_, fun within => issued.fresh (Nat.lt_of_le_of_lt (grown.savesOf _).1 within)⟩
  obtain ⟨es, grown, _⟩ := grown
  exact issued.known.mono (grown ▸ List.subset_append_left _ _)

/-- What is loaded may be handed out. -/
theorem Sound.issued_loaded (sound : j.Sound) {place : Reference} {b : Build}
    (loaded : j.store.load place = .ok b) : j.Issued b := by
  obtain ⟨known, key⟩ := sound.knows_loaded loaded
  refine ⟨known, fun within unsaved => ?_⟩
  -- The version counts the saves of the key, and the build was stored by one of them.
  rw [key] at within
  have count := sound.toNat_version place within
  have last := sound.last place
  rw [loaded] at count last
  have none : j.savesOf place.key = [] := by
    rw [← List.length_eq_zero_iff, ← count]
    exact congrArg UInt64.toNat unsaved
  rw [none] at last
  cases last

variable {b target r : Build} (reference : target.reference = b.reference)
  (version : target.version = b.version) (saved : (BuildStore.save target j).result = .ok r)

include reference version saved

/-- What became of a build is saved only where the build is in its last phase. -/
theorem Sound.phaseIn_of_saved (sound : j.Sound) (issued : j.Issued b) {place : Reference}
    (own : place.key = b.reference.key) (within : (j.savesOf b.reference.key).length < 2 ^ 64) :
    phaseIn place j = b.phase := by
  obtain ⟨rfl, current, store⟩ := save_ok saved
  -- A memory looks at nothing of a place but its key.
  have here : j.store.load place = j.store.load b.reference := by rw [Memory.load, own, Memory.load]
  have current : ((j.store.load b.reference).toOption.map Build.version).getD 0 = b.version := by
    rw [← reference, ← version]
    exact current
  change ((j.store.load place).toOption.map Build.phase).getD .new = b.phase
  rw [here]
  cases loaded : j.store.load b.reference with
  | error e =>
    rw [loaded] at current
    exact (issued.fresh within current.symm).symm
  | ok c =>
    rw [loaded] at current
    -- The store has the version that was in hand, since the save was not refused.
    have current : c.version = b.version := current
    obtain ⟨known, key⟩ := sound.knows_loaded loaded
    change c.phase = b.phase
    by_cases unsaved : b.version = 0
    · -- A build without a version has not begun, whether it is the one in the store or the one in hand.
      have stored := (sound.issued_loaded loaded).fresh (key ▸ within) (current.trans unsaved)
      rw [stored, issued.fresh within unsaved]
    · rw [sound.eq_of_version within issued.known known key current unsaved]

omit reference version in
/-- A build that was saved is in its new phase, and all others are as they were. -/
theorem phaseIn_save (place : Reference) :
    phaseIn place (BuildStore.save target j).store =
      if place.key = target.reference.key then target.phase else phaseIn place j := by
  -- Only places with the key of the build see its phase.
  obtain ⟨rfl, _, store⟩ := save_ok saved
  have loads := Memory.load_of_saved (b := target) (m := j.store) saved place
  rw [store]
  change (((j.store.save target).store.load place).toOption.map Build.phase).getD .new = _
  rw [loads]
  split <;> rfl

end Journal

end ImageBuild
