import ImageBuild.Proofs.FileTree.Paths
import ImageBuild.Proofs.Run
import ImageBuild.Store.Directory
import Mathlib.Logic.Function.Basic

/-! The files of a build, wherever their paths lead: they lie side by side, so that each step of a save changes one
of them and no other. -/

namespace ImageBuild

/-- The files that a build may have in the directory of its namespace. -/
inductive BuildFile
  | current
  | backup
  | lock
  | temporary
  deriving DecidableEq

namespace BuildFile

/-- What comes after the name of the build in the name of its file. -/
def ending : BuildFile → String
  | current => ".json"
  | backup => ".json.backup"
  | lock => ".json.lock"
  | temporary => ".json.tmp"

/-- No two files of a build have one ending. -/
theorem ending_inj {f g : BuildFile} (same : f.ending = g.ending) : f = g := by
  -- The four endings are different.
  revert same
  cases f <;> cases g <;> decide

/-- The endings make names of what they follow. -/
theorem isEnding (f : BuildFile) : FileTree.IsEnding f.ending := by
  constructor <;> cases f <;> decide

end BuildFile

/-- The name of a file of a build. -/
def Reference.fileName (place : Reference) (f : BuildFile) : String := place.name ++ f.ending

/-- A build as it is written. -/
def Build.bytes (b : Build) : Bytes := Text.toBytes b.toJson.pretty

/-- The build that bytes denote. -/
def Build.ofBytes? (bytes : Bytes) : Option Build :=
  (Text.ofBytes? bytes).bind fun text => (Json.read? text).bind Build.ofJson?

/-- The lock that bytes denote. -/
def Lock.ofBytes? (bytes : Bytes) : Option Lock :=
  (Text.ofBytes? bytes).bind fun text => (Json.read? text).bind Lock.ofJson?

namespace Directory

open FileTree Run

/-- The path of a file of a build. -/
def pathOf (d : Directory) (place : Reference) (f : BuildFile) : String :=
  joined (d.scopePath place) (place.fileName f)

/-- The files beside that of a build are files of the build. -/
theorem sibling_eq_pathOf (d : Directory) (place : Reference) {f : BuildFile} {ending : String}
    (named : f.ending = ".json." ++ ending) : d.sibling place ending = d.pathOf place f := by
  rw [sibling, pathOf, Reference.fileName, named, String.append_assoc]

/-- The lock of a build is a file of the build. -/
theorem sibling_lock (d : Directory) (place : Reference) :
    d.sibling place "lock" = d.pathOf place .lock := d.sibling_eq_pathOf place rfl

/-- The paths of the files of a build differ in their endings only. -/
theorem exists_stem (d : Directory) (place : Reference) :
    ∃ stem, ∀ f, d.pathOf place f = stem ++ f.ending := by
  -- Whether a name starts anew from the root is seen before its ending.
  have start : ∀ f : BuildFile, (place.fileName f).toList.head? = some '/' ↔
      place.name.toList.head? = some '/' := by
    intro f
    rw [Reference.fileName, String.toList_append, List.head?_append]
    cases place.name.toList with
    | nil => cases f <;> decide
    | cons c rest => simp
  -- The same branch is taken for each of the four endings, since only the name before it is looked at.
  by_cases alone : place.name.toList.head? = some '/' ∨ (d.scopePath place).isEmpty
  · refine ⟨place.name, fun f => ?_⟩
    rw [pathOf, joined, if_pos (alone.imp_left (start f).mpr), Reference.fileName]
  · have after : ∀ f : BuildFile,
        ¬((place.fileName f).toList.head? = some '/' ∨ (d.scopePath place).isEmpty) :=
      fun f alike => alone (alike.imp_left (start f).mp)
    by_cases slash : endsInSlash (d.scopePath place)
    · refine ⟨d.scopePath place ++ place.name, fun f => ?_⟩
      rw [pathOf, joined, if_neg (after f), if_pos slash, Reference.fileName, String.append_assoc]
    · refine ⟨d.scopePath place ++ "/" ++ place.name, fun f => ?_⟩
      rw [pathOf, joined, if_neg (after f), if_neg slash, Reference.fileName, ← String.append_assoc]

/-- No path of a file of a build ends in a slash. -/
theorem slashless (d : Directory) (place : Reference) (f : BuildFile) :
    endsInSlash (d.pathOf place f) = false := by
  obtain ⟨stem, path⟩ := d.exists_stem place
  -- The last character is that of the ending.
  rw [endsInSlash, path, String.toList_append, List.getLast?_append]
  cases f <;> rfl

/-- The files of a build in their places, with some contents, in a tree that is else another one. -/
structure Laid (d : Directory) (place : Reference) (spot : BuildFile → Path) (t : FileTree)
    (contents : BuildFile → Option Bytes) (u : FileTree) : Prop where
  led : ∀ f, u.place (d.pathOf place f) = .ok (spot f)
  files : ∀ f, u.get? (spot f) = (contents f).map .file
  others : ∀ p, (∀ f, p ≠ spot f) → u.get? p = t.get? p
  here : u.here = t.here

namespace Laid

variable {d : Directory} {place : Reference} {spot : BuildFile → Path} {t u : FileTree}
  {contents : BuildFile → Option Bytes}

/-- The places differ in the endings of the last name. -/
theorem exists_beside (laid : Laid d place spot t contents u) :
    ∃ q last, ∀ f : BuildFile, spot f = q ++ [last ++ f.ending] := by
  obtain ⟨stem, path⟩ := d.exists_stem place
  have led := laid.led .current
  rw [path] at led
  obtain ⟨q, last, beside⟩ := place_beside BuildFile.current.isEnding led
  refine ⟨q, last, fun f => ?_⟩
  have there := laid.led f
  rw [path] at there
  -- A path that leads somewhere is not too long.
  rcases beside f.ending f.isEnding with same | long
  · exact Except.ok.inj (there.symm.trans same)
  · rw [there] at long
    cases long

/-- No two files of a build have one place. -/
theorem spot_inj (laid : Laid d place spot t contents u) {f g : BuildFile} :
    spot f = spot g ↔ f = g := by
  -- The spots differ in their endings only.
  refine ⟨fun same => ?_, congrArg spot⟩
  obtain ⟨q, last, beside⟩ := laid.exists_beside
  rw [beside, beside, List.append_cancel_left_eq, List.singleton_inj,
    String.append_right_inj] at same
  exact BuildFile.ending_inj same

/-- No file of a build is in the place of the root. -/
theorem spot_ne_nil (laid : Laid d place spot t contents u) (f : BuildFile) : spot f ≠ [] := by
  -- A spot has its last name at least.
  obtain ⟨q, last, beside⟩ := laid.exists_beside
  rw [beside]
  simp

/-- No file of a build is a directory. -/
theorem free (laid : Laid d place spot t contents u) (f : BuildFile) :
    u.get? (spot f) ≠ some .directory := by
  -- Where a file of the build is or may be, there is no directory.
  rw [laid.files]
  cases contents f <;> simp

/-- A file of a build with a content is in its place. -/
theorem found (laid : Laid d place spot t contents u) {f : BuildFile} {content : Bytes}
    (stored : contents f = some content) : u.get? (spot f) = some (.file content) := by
  rw [laid.files, stored, Option.map_some]

/-- Only what is in the files counts. -/
theorem congr (laid : Laid d place spot t contents u) {others : BuildFile → Option Bytes}
    (same : ∀ f, contents f = others f) : Laid d place spot t others u :=
  funext same ▸ laid

/-- Every directory is still there. -/
theorem directory (laid : Laid d place spot t contents u)
    (free : ∀ f, t.get? (spot f) ≠ some .directory) (p : Path)
    (there : t.get? p = some .directory) : u.get? p = some .directory := by
  -- None of the spots held a directory, so all of them are kept.
  rw [laid.others p, there]
  rintro f rfl
  exact free f there

/-- Another content of one file changes no other one, and takes no directory away. -/
theorem change (laid : Laid d place spot t contents u) (f : BuildFile) (content : Option Bytes)
    {v : FileTree} (here : v.here = u.here)
    (changed : ∀ q, v.get? q = if q = spot f then content.map .file else u.get? q) :
    Laid d place spot t (Function.update contents f content) v where
  led := by
    intro g
    refine place_mono (fun p directory => ?_) here (laid.led g)
    -- Where the file is there was no directory before.
    have other : p ≠ spot f := by
      rintro rfl
      exact laid.free f directory
    rw [changed, if_neg other, directory]
  files := by
    intro g
    rw [changed, laid.files]
    -- The four files have four places, so that only one of them is rewritten.
    by_cases same : g = f
    · simp [same]
    · rw [if_neg fun spots => same (laid.spot_inj.mp spots), Function.update_of_ne same]
  others := by
    intro p beside
    rw [changed, if_neg (beside f), laid.others p beside]
  here := here.trans laid.here

/-- A file of the build is written. -/
theorem put (laid : Laid d place spot t contents u) (f : BuildFile) (content : Bytes) :
    Laid d place spot t (Function.update contents f (some content))
      (u.put (spot f) (.file content)) :=
  laid.change f (some content) (u.here_put _ _) (fun q => by simp [get?_put, laid.spot_ne_nil])

/-- A file of the build is erased. -/
theorem erase (laid : Laid d place spot t contents u) (f : BuildFile) :
    Laid d place spot t (Function.update contents f none) (u.erase (spot f)) :=
  laid.change f none rfl (fun q => by simp [get?_erase, laid.spot_ne_nil])

/-- A file of a build is read. -/
theorem read (laid : Laid d place spot t contents u) (f : BuildFile) :
    (u.read (d.pathOf place f)).toOption = contents f := by
  -- Reading follows the path to the spot.
  rw [read_eq_of_place (laid.led f), laid.files]
  cases contents f <;> rfl

/-- Whether there is a file of a build is seen under its path. -/
theorem contains (laid : Laid d place spot t contents u) (f : BuildFile) :
    u.contains (d.pathOf place f) = (contents f).isSome := by
  rw [contains_of_place (laid.led f), laid.files, Option.isSome_map]

end Laid

/-- Looking at the files changes nothing. -/
theorem SaveM.run_files {α : Type} (k : FileTree → SaveM α) (s : FileTree × List Log.Event) :
    (SaveM.files >>= k).run.run s = (k s.1).run.run s := rfl

/-- Files are changed as by the change alone. -/
theorem SaveM.run_change {f : FileTree → Except FileFault FileTree} {t u : FileTree}
    {events : List Log.Event} (done : f t = .ok u) :
    (SaveM.change f).run.run (t, events) = (.ok (), u, events) := by
  -- A change that succeeds replaces the files and notes nothing.
  rw [SaveM.change, SaveM.run_files]
  simp only [done]
  rfl

/-- Recording an event changes no file. -/
theorem SaveM.run_note (e : Log.Event) (t : FileTree) (events : List Log.Event) :
    (SaveM.note e).run.run (t, events) = (.ok (), t, events ++ [e]) := rfl

/-- What is in the files of a build once it has been saved: its next version, and beside it the one that was
there before. -/
def filesOfSaved (b : Build) (contents : BuildFile → Option Bytes) : BuildFile → Option Bytes
  | .current => some b.nextVersion.bytes
  | .backup => contents .current <|> contents .backup
  | .lock => contents .lock
  | .temporary => none

/-- What is read of a build from the bytes of its file, if there are some. -/
def storedIn : Option Bytes → Except BuildError (Option Build)
  | none => .ok none
  | some bytes =>
    match Text.ofBytes? bytes with
    | none => .error (.io .notText)
    | some text =>
      match (Json.read? text).bind Build.ofJson? with
      | some b => .ok (some b)
      | none => .error .serialization

namespace Laid

variable {d : Directory} {place : Reference} {spot : BuildFile → Path} {t u : FileTree}
  {contents : BuildFile → Option Bytes} (events : List Log.Event)

/-- Nothing is in the way of the lock of a build that is not locked. -/
theorem run_lock (laid : Laid d place spot t contents u) (unlocked : contents .lock = none)
    (tries : Nat) : (d.lock place (tries + 1)).run.run (u, events) =
      (.ok (), u.put (spot .lock) (.file (Text.toBytes d.lockText)), events) := by
  have created := create_of_place (laid.led .lock) (by rw [laid.files, unlocked]; rfl)
    (d.slashless place .lock) (Text.toBytes d.lockText)
  rw [← d.sibling_lock] at created
  -- The first try succeeds, so that no other one is made.
  change (SaveM.files >>= fun files => _).run.run (u, events) = _
  rw [SaveM.run_files, created]
  rfl

/-- The lock of a locked build is removed. -/
theorem run_unlock (laid : Laid d place spot t contents u) {content : Bytes}
    (locked : contents .lock = some content) :
    (d.unlock place).run.run (u, events) = (.ok (), u.erase (spot .lock), events) := by
  -- The lock is there, so that it is removed.
  rw [unlock, d.sibling_lock]
  change (if u.contains (d.pathOf place .lock) then
    SaveM.change (·.remove (d.pathOf place .lock)) else pure ()).run.run (u, events) = _
  rw [laid.contains, locked]
  exact SaveM.run_change (remove_of_place (laid.led .lock) (laid.found locked))

/-- A text is written to the temporary file of a build. -/
theorem run_write (laid : Laid d place spot t contents u) (content : Bytes) :
    (SaveM.change (·.write (d.pathOf place .temporary) content)).run.run (u, events) =
      (.ok (), u.put (spot .temporary) (.file content), events) :=
  -- The temporary file may be overwritten.
  SaveM.run_change (write_of_place (laid.led .temporary) (laid.free .temporary)
    (d.slashless place .temporary) content)

/-- The version of a build that is there is copied beside it. -/
theorem run_copy (laid : Laid d place spot t contents u) {content : Bytes}
    (stored : contents .current = some content) :
    (SaveM.change (·.copy (d.path place) (d.pathOf place .backup))).run.run (u, events) =
      (.ok (), u.put (spot .backup) (.file content), events) :=
  -- The stored version is read, and written as the backup.
  SaveM.run_change (copy_of_place (laid.led .current) (laid.led .backup) (laid.found stored)
    (laid.free .backup) (d.slashless place .backup))

/-- The temporary file of a build takes the place of its last version. -/
theorem run_move (laid : Laid d place spot t contents u) {content : Bytes}
    (draft : contents .temporary = some content) :
    ∃ v, (SaveM.change (·.move (d.pathOf place .temporary) (d.path place))).run.run (u, events) =
        (.ok (), v, events) ∧
      Laid d place spot t
        (Function.update (Function.update contents .current (some content)) .temporary none) v := by
  refine ⟨_, SaveM.run_change (move_of_place (laid.led .temporary) (laid.led .current)
    (laid.found draft) (laid.free .current) (d.slashless place .current) fun same => ?_), ?_⟩
  -- The two spots are different.
  · exact absurd (laid.spot_inj.mp same) (by decide)
  · exact (laid.put .current content).erase .temporary

/-- What is read of a build is what its file holds. -/
theorem buildIn?_path (laid : Laid d place spot t contents u) :
    buildIn? u (d.path place) = storedIn (contents .current) := by
  have contained : u.contains (d.path place) = (contents .current).isSome := laid.contains .current
  rw [buildIn?, contained]
  -- What is not there is no stored build, and otherwise its bytes decide.
  cases stored : contents .current with
  | none => rfl
  | some bytes =>
    have read : u.read (d.path place) = .ok bytes :=
      read_of_place (laid.led .current) (laid.found stored)
    rw [readText_of_read read, storedIn]
    cases Text.ofBytes? bytes <;> rfl

/-- The lock that is there is read as its bytes denote it. -/
theorem readLock?_path (laid : Laid d place spot t contents u) {bytes : Bytes}
    (locked : contents .lock = some bytes) :
    Lock.read? u (d.pathOf place .lock) = Lock.ofBytes? bytes := by
  -- The bytes of the lock are read as a text first.
  have read := read_of_place (laid.led .lock) (laid.found locked)
  rw [Lock.read?, readText_of_read read, Lock.ofBytes?]
  cases Text.ofBytes? bytes <;> rfl

/-- A lock that cannot be read or is not stale is left alone, and nothing is saved then. -/
theorem run_lock_held (laid : Laid d place spot t contents u) {bytes : Bytes}
    (locked : contents .lock = some bytes)
    (held : ∀ l, Lock.ofBytes? bytes = some l → l.isStale d.clock = false) (tries : Nat) :
    ∃ holder, (d.lock place (tries + 1)).run.run (u, events) =
      (.error (.locked place.key holder), u, events) := by
  have taken := create_of_taken (laid.led .lock) (laid.found locked) (Text.toBytes d.lockText)
  have read := laid.readLock?_path locked
  rw [← d.sibling_lock] at taken read
  change ∃ holder, (SaveM.files >>= fun files => _).run.run (u, events) = _
  rw [SaveM.run_files, taken]
  change ∃ holder, (SaveM.files >>= fun files => _).run.run (u, events) = _
  rw [SaveM.run_files, read]
  -- A lock that cannot be read is held by someone unknown.
  cases found : Lock.ofBytes? bytes with
  | none => exact ⟨"unknown", rfl⟩
  | some l =>
    simp only [held l found]
    exact ⟨l.holder, rfl⟩

/-- A stale lock gives way to a new one. -/
theorem run_lock_stale (laid : Laid d place spot t contents u) {bytes : Bytes} {l : Lock}
    (locked : contents .lock = some bytes) (found : Lock.ofBytes? bytes = some l)
    (stale : l.isStale d.clock = true) (tries : Nat) :
    (d.lock place (tries + 2)).run.run (u, events) =
      (.ok (), (u.erase (spot .lock)).put (spot .lock) (.file (Text.toBytes d.lockText)),
        events ++ [staleEvent place.key l]) := by
  have taken := create_of_taken (laid.led .lock) (laid.found locked) (Text.toBytes d.lockText)
  have read := laid.readLock?_path locked
  have removed := remove_of_place (laid.led .lock) (laid.found locked)
  -- Nothing is in the way of the second try.
  have again := (laid.erase .lock).run_lock (events ++ [staleEvent place.key l])
    (Function.update_self ..) tries
  rw [← d.sibling_lock] at taken read removed
  change (SaveM.files >>= fun files => _).run.run (u, events) = _
  rw [SaveM.run_files, taken]
  change (SaveM.files >>= fun files => _).run.run (u, events) = _
  rw [SaveM.run_files, read, found]
  simp only [stale, if_true]
  rw [run_bind, SaveM.run_note]
  simp only
  rw [run_bind, SaveM.run_change removed]
  exact again

end Laid

/-- What is found out about the last version before a build takes its place. -/
theorem storedIn_ok {current : Option Bytes} {stored : Option Build}
    (found : storedIn current = .ok stored) :
    (current = none ∧ stored = none) ∨
      ∃ bytes last, current = some bytes ∧ Build.ofBytes? bytes = some last ∧ stored = some last := by
  -- The bytes have been decoded, parsed and read as a build.
  cases current with
  | none => exact .inl ⟨rfl, (Except.ok.inj found).symm⟩
  | some bytes =>
    rw [storedIn] at found
    cases decoded : Text.ofBytes? bytes with
    | none => simp [decoded] at found
    | some text =>
      cases read : (Json.read? text).bind Build.ofJson? with
      | none => simp [decoded, read] at found
      | some last =>
        simp only [decoded, read, Except.ok.injEq] at found
        exact .inr ⟨bytes, last, rfl, by rw [Build.ofBytes?, decoded]; exact read, found.symm⟩

/-- Whether a build may take the place of what the bytes of its last version hold, if there are some. -/
def verdict (b : Build) (current : Option Bytes) : Except BuildError Unit :=
  match storedIn current with
  | .error e => .error e
  | .ok stored =>
    match b.conflict? stored with
    | some e => .error e
    | none => .ok ()

/-- A build takes the place of no other version than its own. -/
theorem verdict_ok {b : Build} {current : Option Bytes} (may : verdict b current = .ok ()) :
    (current = none ∧ b.version = 0) ∨
      ∃ bytes last, current = some bytes ∧ Build.ofBytes? bytes = some last ∧
        last.version = b.version := by
  unfold verdict at may
  cases found : storedIn current with
  | error e => simp [found] at may
  | ok stored =>
    cases agreed : b.conflict? stored with
    | some e => simp [found, agreed] at may
    | none =>
      rw [Build.conflict?] at agreed
      have same : (stored.map Build.version).getD 0 = b.version := by simpa using agreed
      -- A build that is not stored counts as version zero.
      rcases storedIn_ok found with ⟨absent, rfl⟩ | ⟨bytes, last, there, read, rfl⟩
      · exact .inl ⟨absent, same.symm⟩
      · exact .inr ⟨bytes, last, there, read, same⟩

/-- Whether a build may be saved has nothing to do with locks. -/
theorem verdict_ne_locked (b : Build) (current : Option Bytes) (key holder : String) :
    verdict b current ≠ .error (.locked key holder) := by
  -- Neither reading nor comparing versions ever complains of a lock.
  have stored : storedIn current ≠ .error (.locked key holder) := by
    unfold storedIn
    split
    · simp
    · split
      · simp
      · split <;> simp
  -- A comparison can only complain of the versions.
  have conflict : ∀ stored, b.conflict? stored ≠ some (.locked key holder) := by
    intro stored
    unfold Build.conflict?
    simp only
    split <;> simp
  unfold verdict
  split
  · rename_i e found
    exact fun same => stored (found.trans (congrArg Except.error (Except.error.inj same)))
  · split
    · rename_i e found
      exact fun same => conflict _ (found.trans (congrArg some (Except.error.inj same)))
    · simp

namespace Laid

variable {d : Directory} {b : Build} {spot : BuildFile → Path} {t u : FileTree}
  {contents : BuildFile → Option Bytes} (events : List Log.Event)

/-- A build that may not be saved is not written. -/
theorem run_writeLocked_refused (laid : Laid d b.reference spot t contents u) {e : BuildError}
    (refused : verdict b (contents .current) = .error e) :
    (d.writeLocked b).run.run (u, events) = (.error e, u, events) := by
  rw [writeLocked, SaveM.run_files, laid.buildIn?_path, run_bind]
  unfold verdict at refused
  -- The failure is that of reading, or else the conflict found after it.
  cases found : storedIn (contents .current) with
  | error fault =>
    simp only [found] at refused
    rw [← Except.error.inj refused]
    rfl
  | ok stored =>
    -- A version that could be read is compared before anything is written.
    have looked : (liftExcept (.ok stored : Except BuildError (Option Build)) : SaveM _).run.run
        (u, events) = (.ok stored, u, events) := rfl
    rw [looked]
    cases conflict : b.conflict? stored with
    | none => simp [found, conflict] at refused
    | some fault =>
      simp only [found, conflict] at refused ⊢
      rw [← Except.error.inj refused]
      rfl

/-- A build that may be saved is written, and its last version is kept beside it. -/
theorem run_writeLocked (laid : Laid d b.reference spot t contents u)
    (may : verdict b (contents .current) = .ok ()) :
    ∃ v, (d.writeLocked b).run.run (u, events) = (.ok (), v, events) ∧
      Laid d b.reference spot t (filesOfSaved b contents) v := by
  -- The new text is first in the temporary file.
  have temporary := laid.put .temporary b.nextVersion.bytes
  unfold verdict at may
  cases found : storedIn (contents .current) with
  | error fault => simp [found] at may
  | ok stored =>
    cases conflict : b.conflict? stored with
    | some fault => simp [found, conflict] at may
    | none =>
      -- Lifting a result that is no error changes nothing.
      have looked : (liftExcept (.ok stored : Except BuildError (Option Build)) : SaveM _).run.run
          (u, events) = (.ok stored, u, events) := rfl
      rw [writeLocked, SaveM.run_files, laid.buildIn?_path, found,
        d.sibling_eq_pathOf b.reference (f := .temporary) rfl,
        d.sibling_eq_pathOf b.reference (f := .backup) rfl, run_bind, looked]
      simp only [conflict]
      change ∃ v, ((SaveM.change (·.write _ b.nextVersion.bytes) >>= fun _ => _).run.run _) = _ ∧ _
      rw [run_bind, laid.run_write events]
      rcases storedIn_ok found with ⟨absent, rfl⟩ | ⟨bytes, last, there, _, rfl⟩
      · obtain ⟨v, moved, after⟩ := temporary.run_move events (Function.update_self ..)
        refine ⟨v, moved, after.congr (fun f => ?_)⟩
        cases f <;> simp [filesOfSaved, absent]
      · -- The last version is copied before the new one takes its place.
        have copied := temporary.run_copy events (show _ = some bytes by simp [there])
        obtain ⟨v, moved, after⟩ := (temporary.put .backup bytes).run_move events
          (show _ = some b.nextVersion.bytes by simp)
        refine ⟨v, ?_, after.congr (fun f => ?_)⟩
        · change ((SaveM.change (·.copy (d.path b.reference) (d.pathOf b.reference .backup))
            >>= fun _ => _).run.run _) = _
          rw [run_bind, copied]
          exact moved
        · cases f <;> simp [filesOfSaved, there]

/-- Once a build is locked the save ends in what is said of the last version, or has written the build; whatever
has happened, no lock is left. -/
theorem run_saveSteps {start : FileTree × List Log.Event} {events later : List Log.Event}
    {v : FileTree} {text : Bytes} (made : (d.makeRoom b.reference).run.run start = (.ok (), u, events))
    (locked : (d.lock b.reference 2).run.run (u, events) = (.ok (), v, later))
    (laid : Laid d b.reference spot t contents v) (lock : contents .lock = some text) :
    ∃ w, (d.saveSteps b).run.run start =
        ((verdict b (contents .current)).map fun _ => b.nextVersion, w, later) ∧
      Laid d b.reference spot t
        (Function.update
          (match verdict b (contents .current) with
            | .error _ => contents
            | .ok _ => filesOfSaved b contents) .lock none) w := by
  -- The steps in order: room is made, the lock is taken, and under it the build is written.
  rw [saveSteps, run_bind, made]
  simp only
  rw [run_bind, locked]
  simp only
  rw [run_bind, run_tryCatch]
  cases outcome : verdict b (contents .current) with
  | error e =>
    -- The handler removes the lock before it passes the failure on.
    rw [laid.run_writeLocked_refused later outcome]
    simp only
    rw [run_bind, laid.run_unlock later lock]
    exact ⟨_, rfl, laid.erase .lock⟩
  | ok _ =>
    obtain ⟨w, wrote, written⟩ := laid.run_writeLocked later outcome
    rw [wrote]
    simp only
    rw [run_bind, written.run_unlock later lock]
    exact ⟨_, rfl, written.erase .lock⟩

end Laid

/-- A save comes to what its steps come to. -/
theorem save_of_run {d : Directory} {b : Build} {result : Except BuildError Build} {files : FileTree}
    {events : List Log.Event}
    (ran : (d.saveSteps b).run.run (d.files, []) = (result, files, events)) :
    d.save b = ⟨result, { d with files := files }, events⟩ := by
  simp only [Directory.save, ran]

end Directory

end ImageBuild
