import ImageBuild.Proofs.Instant.Order
import ImageBuild.Proofs.Store.Refinement

/-! A save is all or nothing: it puts the build into its file and the last version beside it, or leaves both files
as they are; and a lock outlasts it only if that may be held by somebody else. -/

namespace ImageBuild

namespace Lock

/-- The whole seconds that have passed since a lock was acquired. -/
def age (l : Lock) (now : Instant) : Int := now.since l.acquiredAt / nanosPerSecond

/-- Bytes of a lock that somebody may still hold: they cannot be read, or the lock is not a minute old. -/
def Holds (bytes : Bytes) (now : Instant) : Prop := ∀ l, ofBytes? bytes = some l → l.age now < 60

/-- A lock is stale once a minute has passed. -/
theorem isStale_iff (l : Lock) (now : Instant) : l.isStale now = true ↔ 60 ≤ l.age now := by
  -- A whole number of seconds is compared.
  rw [isStale, decide_eq_true_iff, age]
  simp only [staleSeconds, nanosPerSecond]
  omega

end Lock

namespace Directory

open FileTree Run

/-- The bytes in a file of a build, if it can be read. -/
def bytesIn? (d : Directory) (place : Reference) (f : BuildFile) : Option Bytes :=
  (d.files.read (d.pathOf place f)).toOption

/-- A directory where nothing fails unless a file is missing, or there already: that of the namespace can be made
if need be, and once it is there the files of the build are read as before, or are missing. -/
def Orderly (d : Directory) (place : Reference) : Prop :=
  ∃ t, (d.makeRoom place).run.run (d.files, []) = (.ok (), t, []) ∧
    ∀ f, t.read (d.pathOf place f) = (d.bytesIn? place f).elim (.error .missing) .ok

/-- What a save has done that returns a build: the files are those of the next version. -/
structure Committed (d : Directory) (b r : Build) (e : Directory) : Prop where
  /-- The last version was that of the build, or zero where there was none. -/
  agreed : (d.bytesIn? b.reference .current = none ∧ b.version = 0) ∨
    ∃ bytes last, d.bytesIn? b.reference .current = some bytes ∧ Build.ofBytes? bytes = some last ∧
      last.version = b.version
  build : r = { b with version := r.version }
  version : r.version.toNat = b.version.toNat + 1
  current : e.bytesIn? b.reference .current = some r.bytes
  backup : e.bytesIn? b.reference .backup =
    (d.bytesIn? b.reference .current <|> d.bytesIn? b.reference .backup)
  unlocked : e.files.contains (e.pathOf b.reference .lock) = false
  tidy : e.files.contains (e.pathOf b.reference .temporary) = false

/-- What a save has done that fails: the build and its last version are as before. -/
structure RolledBack (d : Directory) (b : Build) (error : BuildError) (e : Directory) : Prop where
  current : e.bytesIn? b.reference .current = d.bytesIn? b.reference .current
  backup : e.bytesIn? b.reference .backup = d.bytesIn? b.reference .backup
  locked_iff : (∃ key holder, error = .locked key holder) ↔
    ∃ bytes, d.bytesIn? b.reference .lock = some bytes ∧ Lock.Holds bytes d.clock
  /-- A lock that may be held stays as it is. -/
  kept : (∃ key holder, error = .locked key holder) →
    e.bytesIn? b.reference .lock = d.bytesIn? b.reference .lock
  /-- After any other failure there is no lock. -/
  unlocked : (¬∃ key holder, error = .locked key holder) →
    e.files.contains (e.pathOf b.reference .lock) = false

section

variable {d : Directory} {b : Build} {place : Reference} {spot : BuildFile → Path} {t u : FileTree}
  {contents : BuildFile → Option Bytes}

/-- Where the path of the lock leads anywhere, the files of a build have their places side by side. -/
theorem exists_laid {p : Path} (led : t.place (d.pathOf place .lock) = .ok p)
    (reads : ∀ f, t.read (d.pathOf place f) = (contents f).elim (.error .missing) .ok) :
    ∃ spot, Laid d place spot t contents t := by
  obtain ⟨stem, path⟩ := d.exists_stem place
  rw [path] at led
  obtain ⟨q, last, beside⟩ := place_beside BuildFile.lock.isEnding led
  -- All four files lie in the directory of the lock.
  have leads : ∀ f : BuildFile, t.place (d.pathOf place f) = .ok (q ++ [last ++ f.ending]) := by
    intro f
    rw [path]
    rcases beside f.ending f.isEnding with there | long
    · exact there
    · -- A file whose path is too long is not missing.
      have read := reads f
      rw [FileTree.read, FileTree.find?, path, long] at read
      cases found : contents f <;> simp [found, Except.map] at read
  refine ⟨fun f => q ++ [last ++ f.ending], leads, fun f => ?_, fun _ _ => rfl, rfl⟩
  have read := reads f
  rw [read_eq_of_place (leads f)] at read
  -- A directory in its place could not be read, and would not be missing either.
  cases there : t.get? (q ++ [last ++ f.ending]) with
  | none => cases found : contents f <;> simp_all
  | some e => cases e <;> cases found : contents f <;> simp_all

/-- A save that fails has one failure, and returns no build. -/
theorem ends_of_error {e : BuildError} (failed : (d.save b).result = .error e)
    (rolledBack : d.RolledBack b e (d.save b).store) :
    (∀ r, (d.save b).result = .ok r → d.Committed b r (d.save b).store) ∧
      ∀ e, (d.save b).result = .error e → d.RolledBack b e (d.save b).store := by
  -- The save has failed, so the first part has nothing to show.
  constructor
  · intro r returned
    rw [failed] at returned
    cases returned
  · intro error same
    rw [failed] at same
    exact Except.error.inj same ▸ rolledBack

/-- Once a build is locked, whatever was in the way of that, a save is all or nothing. -/
theorem ends_of_locked {events : List Log.Event} {text : Bytes}
    (room : b.version.toNat + 1 < 2 ^ 64)
    (made : (d.makeRoom b.reference).run.run (d.files, []) = (.ok (), t, []))
    (locked : (d.lock b.reference 2).run.run (t, []) = (.ok (), u, events))
    (laid : Laid d b.reference spot t
      (Function.update (d.bytesIn? b.reference) .lock (some text)) u)
    (free : ¬∃ bytes, d.bytesIn? b.reference .lock = some bytes ∧ Lock.Holds bytes d.clock) :
    (∀ r, (d.save b).result = .ok r → d.Committed b r (d.save b).store) ∧
      ∀ e, (d.save b).result = .error e → d.RolledBack b e (d.save b).store := by
  -- With the lock taken, the save runs to its end, and the lock is given back.
  obtain ⟨w, ran, after⟩ := laid.run_saveSteps made locked (Function.update_self ..)
  have current : Function.update (d.bytesIn? b.reference) .lock (some text) .current =
      d.bytesIn? b.reference .current := Function.update_of_ne (by decide) ..
  rw [current] at ran after
  have saved := save_of_run ran
  -- From here on only the last version decides.
  cases outcome : verdict b (d.bytesIn? b.reference .current) with
  | ok _ =>
    rw [outcome] at after saved
    have version : b.nextVersion.version.toNat = b.version.toNat + 1 := by
      change (b.version + 1).toNat = _
      rw [UInt64.toNat_add]
      exact Nat.mod_eq_of_lt room
    have committed : d.Committed b b.nextVersion { d with files := w } := {
      agreed := verdict_ok outcome
      build := rfl
      version := version
      current := after.read .current
      backup := after.read .backup
      unlocked := after.contains .lock
      tidy := after.contains .temporary }
    rw [saved]
    constructor
    · intro r returned
      exact Except.ok.inj returned ▸ committed
    · intro e failed
      cases failed
  | error e =>
    rw [outcome] at after saved
    have other : ¬∃ key holder, e = .locked key holder := by
      rintro ⟨key, holder, rfl⟩
      exact verdict_ne_locked b _ key holder outcome
    have rolledBack : d.RolledBack b e { d with files := w } := {
      current := after.read .current
      backup := after.read .backup
      locked_iff := ⟨fun locked => absurd locked other, fun held => absurd held free⟩
      kept := fun locked => absurd locked other
      unlocked := fun _ => after.contains .lock }
    exact ends_of_error (by rw [saved]; rfl) (by rw [saved]; exact rolledBack)

/-- A save that gets no lock leaves all files as they are. -/
theorem ends_of_unlocked {e : BuildError} {events : List Log.Event}
    (made : (d.makeRoom b.reference).run.run (d.files, []) = (.ok (), t, []))
    (reads : ∀ f, t.read (d.pathOf b.reference f) =
      (d.bytesIn? b.reference f).elim (.error .missing) .ok)
    (failed : (d.lock b.reference 2).run.run (t, []) = (.error e, t, events))
    (locked_iff : (∃ key holder, e = .locked key holder) ↔
      ∃ bytes, d.bytesIn? b.reference .lock = some bytes ∧ Lock.Holds bytes d.clock)
    (unlocked : (¬∃ key holder, e = .locked key holder) →
      t.contains (d.pathOf b.reference .lock) = false) :
    (∀ r, (d.save b).result = .ok r → d.Committed b r (d.save b).store) ∧
      ∀ e, (d.save b).result = .error e → d.RolledBack b e (d.save b).store := by
  have ran : (d.saveSteps b).run.run (d.files, []) = (.error e, t, events) := by
    rw [saveSteps, run_bind, made]
    simp only
    rw [run_bind, failed]
  -- Only directories have been made, so every file is as before.
  have same : ∀ f, ({ d with files := t } : Directory).bytesIn? b.reference f =
      d.bytesIn? b.reference f := by
    intro f
    change (t.read (d.pathOf b.reference f)).toOption = _
    rw [reads]
    cases d.bytesIn? b.reference f <;> rfl
  have saved := save_of_run ran
  have rolledBack : d.RolledBack b e { d with files := t } :=
    ⟨same .current, same .backup, locked_iff, fun _ => same .lock, unlocked⟩
  exact ends_of_error (by rw [saved]) (by rw [saved]; exact rolledBack)

/-- Whatever is in the files of a build, a save is all or nothing. -/
theorem save_is_all_or_nothing (orderly : d.Orderly b.reference)
    (room : b.version.toNat + 1 < 2 ^ 64) :
    (∀ r, (d.save b).result = .ok r → d.Committed b r (d.save b).store) ∧
      ∀ e, (d.save b).result = .error e → d.RolledBack b e (d.save b).store := by
  obtain ⟨t, made, reads⟩ := orderly
  cases led : t.place (d.pathOf b.reference .lock) with
  | error fault =>
    -- There is no directory in which a lock could be.
    have read := reads .lock
    rw [FileTree.read, FileTree.find?, led] at read
    cases lock : d.bytesIn? b.reference .lock with
    | some bytes => simp [lock, Except.map] at read
    | none =>
      obtain rfl : fault = .missing := by simpa [lock, Except.map] using read
      have failed : (d.lock b.reference 2).run.run (t, []) = (.error (.io .missing), t, []) := by
        change (SaveM.files >>= fun files => _).run.run (t, []) = _
        rw [SaveM.run_files, d.sibling_lock, FileTree.create, led]
        rfl
      refine ends_of_unlocked made reads failed (by simp [lock]) fun _ => ?_
      rw [FileTree.contains, FileTree.find?, led]
      rfl
  | ok p =>
    obtain ⟨spot, laid⟩ := exists_laid led reads
    cases lock : d.bytesIn? b.reference .lock with
    | none =>
      have locked := laid.put .lock (Text.toBytes d.lockText)
      exact ends_of_locked room made (laid.run_lock [] lock 1) locked (by simp [lock])
    | some bytes =>
      by_cases held : Lock.Holds bytes d.clock
      -- A lock that may be held is younger than a minute or cannot be read.
      · have young : ∀ l, Lock.ofBytes? bytes = some l → l.isStale d.clock = false := by
          intro l read
          have age := held l read
          rw [Bool.eq_false_iff, ne_eq, l.isStale_iff]
          omega
        obtain ⟨holder, failed⟩ := laid.run_lock_held [] lock young 1
        exact ends_of_unlocked made reads failed ⟨fun _ => ⟨bytes, lock, held⟩, fun _ => ⟨_, _, rfl⟩⟩
          fun other => absurd ⟨_, _, rfl⟩ other
      · -- A lock that nobody can hold is readable, and a minute old.
        simp only [Lock.Holds, not_forall] at held
        obtain ⟨l, read, old⟩ := held
        have stale : l.isStale d.clock = true := (l.isStale_iff d.clock).mpr (by omega)
        have again := (laid.erase .lock).put .lock (Text.toBytes d.lockText)
        rw [Function.update_idem] at again
        refine ends_of_locked room made (laid.run_lock_stale [] lock read stale 0) again ?_
        rintro ⟨other, there, held⟩
        obtain rfl : bytes = other := Option.some.inj (lock.symm.trans there)
        exact old (held l read)

end

/-- A directory of builds is orderly where names are those of single files and directories. -/
theorem Admits.orderly {d : Directory} {r : Path} {place : Reference}
    {contents : BuildFile → Option Bytes} (admits : d.Admits place) (rooted : Rooted d r d.files)
    (files : ∀ f, d.files.get? (place.spot r f) = (contents f).map .file)
    (free : d.files.get? (place.room r) = none ∨ d.files.get? (place.room r) = some .directory)
    (housed : ∀ f, d.files.get? (place.spot r f) ≠ none →
      d.files.get? (place.room r) = some .directory) : d.Orderly place := by
  -- Making room leaves the files of the build as they were.
  obtain ⟨t, made, filled⟩ := run_makeRoom [] admits rooted files free
  refine ⟨t, made, fun f => ?_⟩
  -- What can be read before there is room is what the tree holds.
  have before : d.bytesIn? place f = contents f := by
    rcases free with absent | room
    · -- Without a directory of its namespace there is no file of the build.
      have led : d.files.place (d.pathOf place f) = .error .missing := by
        rw [rooted.place_pathOf admits, follow, absent]
      have nothing : d.files.get? (place.spot r f) = none := by
        by_contra there
        rw [housed f there] at absent
        cases absent
      rw [files] at nothing
      rw [bytesIn?, FileTree.read, find?, led, Option.map_eq_none_iff.mp nothing]
      rfl
    · have laid : Laid d place (place.spot r) d.files contents d.files :=
        ⟨Housed.place_pathOf admits ⟨rooted, room⟩, files, fun _ _ => rfl, rfl⟩
      exact laid.read f
  rw [before, read_eq_of_place ((filled.laid admits).led f), filled.files]
  cases contents f <;> rfl

/-- A directory with a build in short form, a stale lock, and a temporary file that was left behind. -/
def litteredDirectory : Directory where
  files :=
    let spot := unsavedBuild.reference.spot ["builds"]
    let t := (FileTree.empty.put ["builds"] .directory).put ["builds", "ns"] .directory
    let short := Json.object [("resourceVersion", .ofNat 1), ("spec", .object [("tasks", .array [])])]
    let t := t.put (spot .current) (.file (Text.toBytes short.compact))
    let t := t.put (spot .lock) (.file (Text.toBytes (Lock.toJson ⟨"other", .epoch⟩).pretty))
    t.put (spot .temporary) (.file [255])
  root := "/builds"
  holder := "host"
  clock := .atSecond 60

/-- A save takes a stale lock away, and puts the next version in the place of the last one. -/
theorem save_is_all_or_nothing_litteredDirectory :
    let b := unsavedBuild.nextVersion
    litteredDirectory.Orderly b.reference ∧ b.version.toNat + 1 < 2 ^ 64 ∧
      (litteredDirectory.save b).result = .ok b.nextVersion ∧
      litteredDirectory.Committed b b.nextVersion (litteredDirectory.save b).store := by
  intro b
  have admits : litteredDirectory.Admits b.reference :=
    { emptyDirectory_admits with near := emptyDirectory_admits.near }
  have rooted : Rooted litteredDirectory ["builds"] litteredDirectory.files :=
    ⟨by decide +kernel, by decide +kernel⟩
  have house : litteredDirectory.files.get? (b.reference.room ["builds"]) = some .directory := by
    decide +kernel
  -- All four files are there, the lock and the temporary file left over from another save.
  have files : ∀ f, litteredDirectory.files.get? (b.reference.spot ["builds"] f) =
      ((litteredDirectory.bytesIn? b.reference f).map .file) := by
    intro f
    cases f <;> decide +kernel
  have orderly := admits.orderly rooted files (.inr house) fun _ _ => house
  have returned : (litteredDirectory.save b).result = .ok b.nextVersion := by decide +kernel
  exact ⟨orderly, by decide, returned,
    (save_is_all_or_nothing orderly (by decide)).1 b.nextVersion returned⟩

end Directory

end ImageBuild
