import ImageBuild.Proofs.Store.Atomic
import ImageBuild.Proofs.Store.Steady

/-! What can be loaded after a save: the build that it returns or, when it fails, what could be loaded before,
whatever has been in the way of it. -/

namespace ImageBuild

/-- A store of which a save is all or nothing to whoever loads builds from it. -/
class AtomicStore (σ : Type) [BuildStore σ] where
  /-- The states in which saves are all or nothing. -/
  Sound : σ → Prop
  /-- The names under which a store can have builds. -/
  Admits : σ → Reference → Prop
  /-- A save that fails is not seen by later loads. -/
  load_of_failed : ∀ {b : Build} {st : σ} {e : BuildError}, Sound st → Admits st b.reference →
    (BuildStore.save b st).result = .error e → ∀ place, Admits st place →
      BuildStore.load place (BuildStore.save b st).store = BuildStore.load place st
  /-- A build that has been saved is loaded as the save returned it. -/
  load_of_saved : ∀ {b r : Build} {st : σ}, Sound st → Admits st b.reference →
    (BuildStore.save b st).result = .ok r →
      BuildStore.load b.reference (BuildStore.save b st).store = .ok r

/-- A memory refuses a build before anything changes. -/
instance : AtomicStore Memory where
  Sound := SteadyStore.Sound
  Admits := SteadyStore.Admits
  load_of_failed := SteadyStore.load_of_refused
  -- The saved build is under its own key.
  load_of_saved := by
    intro b r m _ _ saved
    exact (Memory.load_of_saved (b := b) (m := m) saved b.reference).trans (if_pos rfl)

namespace Directory

open FileTree Run

/-- A directory of builds in which what has the name of a namespace is a directory, and what has the name of a file
of a build is a file in it. There is no more to say of the files: locks of others may be among them, and files that
cannot be read. -/
structure Arranged (d : Directory) (r : Path) : Prop extends Rooted d r d.files where
  rooms : ∀ place : Reference, place.Whole → d.files.get? (place.room r) = some .directory ∨
    (d.files.get? (place.room r) = none ∧ ∀ f, d.files.get? (place.spot r f) = none)
  files : ∀ place : Reference, place.Whole → ∀ f,
    d.files.get? (place.spot r f) ≠ some .directory

/-- The bytes in a file. -/
def bytesAt (t : FileTree) (p : Path) : Option Bytes :=
  match t.get? p with
  | some (.file bytes) => some bytes
  | _ => none

/-- Where no directory is there is nothing or a file. -/
theorem get?_eq_bytesAt {t : FileTree} {p : Path} (free : t.get? p ≠ some .directory) :
    t.get? p = (bytesAt t p).map .file := by
  -- What is no directory is a file or nothing.
  rw [bytesAt]
  cases found : t.get? p with
  | none => rfl
  | some e =>
    cases e with
    | file bytes => rfl
    | directory => exact absurd found free

section

variable {d : Directory} {r : Path} {b : Build} {place : Reference} {spot : BuildFile → Path}
  {t u : FileTree} {contents : BuildFile → Option Bytes}

/-- What is found under the name of a build is what is in its file. -/
theorem buildIn?_path (rooted : Rooted d r t) (admits : d.Admits place)
    (room : t.get? (place.room r) = some .directory ∨
      (t.get? (place.room r) = none ∧ ∀ f, t.get? (place.spot r f) = none))
    (files : ∀ f, t.get? (place.spot r f) = (contents f).map .file) :
    buildIn? t (d.path place) = storedIn (contents .current) := by
  -- Whether there is a directory of the namespace or not, the file of the build is what is read.
  rcases room with there | ⟨absent, nothing⟩
  · have laid : Laid d place (place.spot r) t contents t :=
      ⟨Housed.place_pathOf admits ⟨rooted, there⟩, files, fun _ _ => rfl, rfl⟩
    exact laid.buildIn?_path
  · -- Without a directory of its namespace there is no file of the build.
    have led : t.place (d.path place) = .error .missing := by
      change t.place (d.pathOf place .current) = _
      rw [rooted.place_pathOf admits, follow, absent]
    have nowhere : t.contains (d.path place) = false := by
      rw [contains, find?, led]
      rfl
    have empty := (files .current).symm.trans (nothing .current)
    rw [buildIn?, nowhere, Option.map_eq_none_iff.mp empty]
    rfl

/-- A lock is refused and changes nothing, or is a file of the build from then on. -/
theorem Laid.run_lock_cases (laid : Laid d place spot t contents u) (events : List Log.Event) :
    (∃ e, (d.lock place 2).run.run (u, events) = (.error e, u, events)) ∨
    ∃ text v later, (d.lock place 2).run.run (u, events) = (.ok (), v, later) ∧
      Laid d place spot t (Function.update contents .lock (some text)) v := by
  -- A missing lock is taken, a stale one replaced, and any other one respected.
  cases lock : contents .lock with
  | none => exact .inr ⟨_, _, _, laid.run_lock events lock 1, laid.put .lock _⟩
  | some bytes =>
    by_cases stale : ∃ l, Lock.ofBytes? bytes = some l ∧ l.isStale d.clock = true
    · obtain ⟨l, read, stale⟩ := stale
      have again := (laid.erase .lock).put .lock (Text.toBytes d.lockText)
      rw [Function.update_idem] at again
      exact .inr ⟨_, _, _, laid.run_lock_stale events lock read stale 0, again⟩
    · have held : ∀ l, Lock.ofBytes? bytes = some l → l.isStale d.clock = false :=
        fun l read => Bool.eq_false_iff.mpr fun old => stale ⟨l, read, old⟩
      obtain ⟨holder, failed⟩ := laid.run_lock_held events lock held 1
      exact .inl ⟨_, failed⟩

/-- What a save leaves in the file under the name of its build, for each of its results. -/
inductive Outcome (b : Build) (before : Option Bytes) : Except BuildError Build → Option Bytes → Prop
  | saved : Outcome b before (.ok b.nextVersion) (some b.nextVersion.bytes)
  | failed (e : BuildError) : Outcome b before (.error e) before

/-- A save that fails leaves in the file what was there. -/
theorem Outcome.of_failed {before after : Option Bytes} {e : BuildError}
    (outcome : Outcome b before (.error e) after) : after = before := by
  -- A failure comes with unchanged bytes.
  cases outcome
  rfl

/-- A save that returns a build leaves it in the file. -/
theorem Outcome.of_saved {x : Build} {before after : Option Bytes}
    (outcome : Outcome b before (.ok x) after) : after = some x.bytes := by
  -- A success comes with the bytes of the build that is returned.
  cases outcome
  rfl

/-- Whatever is in the files of a build, a save makes others of them alone, and of the file under its name only the
one that it returns. -/
theorem Arranged.filled_save (arranged : d.Arranged r) (admits : d.Admits b.reference) :
    ∃ contents u, (d.save b).store = { d with files := u } ∧
      Filled d r b.reference d.files contents u ∧
      Outcome b (bytesAt d.files (b.reference.spot r .current)) (d.save b).result
        (contents .current) := by
  have whole := admits.toWhole
  obtain ⟨t, room, made⟩ := run_makeRoom [] admits arranged.toRooted
    (fun f => get?_eq_bytesAt (arranged.files _ whole f))
    ((arranged.rooms _ whole).symm.imp_left And.left)
  have laid := made.laid admits
  -- Without the lock nothing is written; with it, the lock is one more file of the build until it is given back.
  rcases laid.run_lock_cases [] with ⟨e, failed⟩ | ⟨text, v, later, locked, after⟩
  · have ran : (d.saveSteps b).run.run (d.files, []) = (.error e, t, []) := by
      rw [saveSteps, run_bind, room]
      simp only
      rw [run_bind, failed]
    rw [save_of_run ran]
    exact ⟨_, t, rfl, made, .failed e⟩
  · obtain ⟨w, ran, after⟩ := after.run_saveSteps room locked (Function.update_self ..)
    rw [save_of_run ran]
    refine ⟨_, w, rfl, made.of_laid after, ?_⟩
    -- The lock is not the file under the name of the build.
    rw [Function.update_of_ne (by decide)]
    cases verdict b _ with
    | error e =>
      rw [Function.update_of_ne (by decide)]
      exact .failed e
    | ok _ => exact .saved

/-- A build that can be found before a save is found after it: the one that the save is about in its file as it is by
then, and every other one as before. -/
theorem Arranged.buildIn?_filled {named : Reference} (arranged : d.Arranged r)
    (filled : Filled d r named d.files contents u) (admits : d.Admits place) :
    buildIn? u (d.path place) = storedIn
      (if place = named then contents .current else bytesAt d.files (place.spot r .current)) := by
  have whole := admits.toWhole
  by_cases same : place = named
  · subst same
    rw [if_pos rfl]
    exact (filled.laid admits).buildIn?_path
  -- The files of another build lie in other places.
  · have kept : ∀ f, u.get? (place.spot r f) = d.files.get? (place.spot r f) := fun f =>
      filled.others _ (by simp) fun _ alike => same (Reference.spot_inj.mp alike).1
    have files : ∀ f, u.get? (place.spot r f) = (bytesAt d.files (place.spot r f)).map .file :=
      fun f => (kept f).trans (get?_eq_bytesAt (arranged.files _ whole f))
    rw [if_neg same]
    refine buildIn?_path filled.housed.toRooted admits ?_ files
    -- The directory of the namespace may be that of the build that is saved.
    by_cases room : place.room r = named.room r
    · exact .inl (room ▸ filled.housed.room)
    · have apart := filled.others (place.room r) room fun f =>
        (Reference.spot_ne_room named place r f).symm
      simp only [apart, kept]
      exact arranged.rooms _ whole

/-- What is loaded is what is found in the files. -/
theorem load_eq_of_buildIn? {e : Directory}
    (same : buildIn? e.files (e.path place) = buildIn? d.files (d.path place)) :
    e.load place = d.load place := by
  rw [load, load, same]

/-- A save that fails is not seen by later loads. -/
theorem Arranged.load_of_failed {e : BuildError} (arranged : d.Arranged r)
    (admits : d.Admits b.reference) (failed : (d.save b).result = .error e)
    (admitted : d.Admits place) : (d.save b).store.load place = d.load place := by
  obtain ⟨contents, u, store, filled, outcome⟩ := arranged.filled_save admits
  rw [failed] at outcome
  rw [store]
  refine load_eq_of_buildIn? ?_
  have whole := admitted.toWhole
  rw [buildIn?_path arranged.toRooted admitted (arranged.rooms _ whole)
    fun f => get?_eq_bytesAt (arranged.files _ whole f)]
  refine (arranged.buildIn?_filled filled admitted).trans ?_
  -- The build itself is as before the failure, and so is every other one.
  split
  · rename_i same
    rw [same, outcome.of_failed]
  · rfl

/-- A build that has been saved is loaded as the save returned it. -/
theorem Arranged.load_of_saved {x : Build} (arranged : d.Arranged r)
    (admits : d.Admits b.reference) (saved : (d.save b).result = .ok x) :
    (d.save b).store.load b.reference = .ok x := by
  obtain ⟨contents, u, store, filled, outcome⟩ := arranged.filled_save admits
  rw [saved] at outcome
  have readable : ∀ c ∈ some x, c.ReadsBack := fun c _ => c.readsBack
  -- The bytes that were written read back as the build.
  have found : buildIn? u (d.path b.reference) = .ok (some x) := by
    rw [arranged.buildIn?_filled filled admits, if_pos rfl, outcome.of_saved]
    exact storedIn_bytes readable
  rw [store]
  change (buildIn? u (d.path b.reference) >>= _) = _
  rw [found]
  rfl

end

/-- A directory that holds what has been saved is arranged. -/
theorem Depicts.arranged {d : Directory} {r : Path} {j : Journal Memory} (depicts : d.Depicts r j) :
    d.Arranged r where
  toRooted := depicts.toRooted
  rooms := by
    intro place whole
    refine (depicts.rooms place whole).symm.imp_right fun absent => ⟨absent, fun f => ?_⟩
    -- A file is only in a directory.
    by_contra there
    rw [depicts.housed place whole f there] at absent
    cases absent
  files := by
    intro place whole f
    rw [depicts.files place whole f]
    cases j.filesOf place f <;> simp

/-- What others have left behind in a directory are files like those that a build may have. -/
theorem litteredDirectory_arranged : litteredDirectory.Arranged ["builds"] := by
  -- At the beginning there is nothing but the root.
  have empty : ∀ p, FileTree.empty.get? p = if p = [] then some .directory else none := fun _ => rfl
  refine ⟨⟨by decide +kernel, by decide +kernel⟩, fun place whole => ?_, fun place whole f => ?_⟩
  · by_cases same : place.scope = "ns"
    · rw [Reference.room, same]
      exact .inl (by decide +kernel)
    · refine .inr ⟨?_, fun f => ?_⟩ <;>
        simp [litteredDirectory, get?_put, Reference.room, Reference.spot, unsavedBuild, same, empty]
  · simp only [litteredDirectory, get?_put, Reference.spot, unsavedBuild, empty]
    split_ifs <;> simp_all

end Directory

/-- Whatever is in its files, a directory gives back the last build that was saved. -/
instance : AtomicStore Directory where
  Sound d := ∃ r, d.Arranged r
  Admits d place := d.Admits place
  -- A directory in order says where its builds are.
  load_of_failed := by
    rintro b d e ⟨r, arranged⟩ admits failed place admitted
    exact arranged.load_of_failed admits failed admitted
  load_of_saved := by
    rintro b x d ⟨r, arranged⟩ admits saved
    exact arranged.load_of_saved admits saved

/-- Nothing is kept where a store is missing. -/
instance {σ : Type} [BuildStore σ] [AtomicStore σ] : AtomicStore (Option σ) where
  Sound st := ∃ s, st = some s ∧ AtomicStore.Sound s
  Admits st place := ∀ s ∈ st, AtomicStore.Admits s place
  -- There is a store, whose laws carry over.
  load_of_failed := by
    rintro b _ e ⟨s, rfl, sound⟩ admits failed place admitted
    exact AtomicStore.load_of_failed sound (admits s rfl) failed place (admitted s rfl)
  load_of_saved := by
    rintro b r _ ⟨s, rfl, sound⟩ admits saved
    have loaded := AtomicStore.load_of_saved (b := b) (r := r) sound (admits s rfl) saved
    exact loaded

end ImageBuild
