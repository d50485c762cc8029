import ImageBuild.Proofs.Store.Journal
import ImageBuild.Proofs.Store.Written
import Mathlib.Logic.Relation

/-! A directory of builds answers as a memory does, and holds in its files what was saved last and what was
saved before that. -/

namespace ImageBuild

/-- The namespace and the name are names of their own. -/
structure Reference.Whole (place : Reference) : Prop where
  scope : '/' ∉ place.scope.toList
  name : '/' ∉ place.name.toList

/-- A key tells the namespace from the name if the name is no path. -/
theorem Reference.eq_of_key {place other : Reference} (whole : '/' ∉ place.name.toList)
    (otherWhole : '/' ∉ other.name.toList) (same : place.key = other.key) : place = other := by
  have text : ∀ p : Reference, p.key.toList = p.scope.toList ++ '/' :: p.name.toList := by
    intro p
    simp [Reference.key]
  -- The name is what comes after the last slash of the key.
  have last : ∀ {p : Reference}, '/' ∉ p.name.toList →
      (Text.splitAll '/' p.key.toList).getLast? = some p.name.toList := by
    intro p whole
    rw [text, Text.splitAll_append, Text.splitAll_of_not_mem whole, List.getLast?_concat]
  have name : place.name = other.name := by
    rw [← String.toList_inj, ← Option.some_inj, ← last whole, ← last otherWhole, same]
  -- What is left of the key without it is the namespace.
  have scope : place.scope = other.scope := by
    have keys := congrArg String.toList same
    rw [text, text, name, List.append_left_inj] at keys
    exact String.toList_inj.mp keys
  cases place
  cases other
  exact (Reference.mk.injEq ..).mpr ⟨scope, name⟩

/-- What is loaded is what is under the key. -/
theorem Memory.toOption_load (m : Memory) (place : Reference) :
    (m.load place).toOption = m.builds.get? place.key := by
  -- Loading is looking up, with an error for what is missing.
  unfold load
  cases m.builds.get? place.key <;> rfl

/-- What is asked of a store. -/
inductive StoreRequest
  | save (b : Build)
  | load (place : Reference)

namespace StoreRequest

variable {σ : Type} [BuildStore σ]

/-- What a store answers. -/
def answer (q : StoreRequest) (st : σ) : Except BuildError Build :=
  match q with
  | save b => (BuildStore.save b st).result
  | load place => BuildStore.load place st

/-- What becomes of a store. -/
def after (q : StoreRequest) (st : σ) : σ :=
  match q with
  | save b => (BuildStore.save b st).store
  | load _ => st

/-- The request is about a build that a directory can have files of, and what would be saved can be read
again. -/
def Admitted (d : Directory) : StoreRequest → Prop
  | save b => d.Admits b.reference ∧ b.nextVersion.ReadsBack
  | load place => d.Admits place

end StoreRequest

/-- What has to be in the files of a build: what the memory holds, beside it what was saved before that, and
neither a lock nor a temporary file. -/
def Journal.filesOf (j : Journal Memory) (place : Reference) : BuildFile → Option Bytes
  | .current => (j.store.load place).toOption.map Build.bytes
  | .backup => ((j.savesOf place.key).dropLast.getLast?.map Save.stored).map Build.bytes
  | .lock | .temporary => none

/-- A save changes the files of its build only. -/
theorem Journal.Sound.filesOf_save {j : Journal Memory} {b r : Build} (sound : j.Sound)
    (saved : (BuildStore.save b j).result = .ok r) (place : Reference) :
    (BuildStore.save b j).store.filesOf place =
      if place.key = b.reference.key then Directory.filesOfSaved b (j.filesOf place)
      else j.filesOf place := by
  obtain ⟨rfl, _, store⟩ := save_ok saved
  have loads := Memory.load_of_saved (b := b) (m := j.store) saved place
  have saves := savesOf_noted j b (j.store.save b).store place.key
  rw [store]
  by_cases same : place.key = b.reference.key
  · rw [if_pos same] at loads saves ⊢
    funext f
    cases f with
    | current =>
      rw [filesOf, loads]
      rfl
    | backup =>
      -- What was there before is what was saved last; if there was nothing, nothing was saved.
      rw [filesOf, saves, List.dropLast_concat, ← sound.last place, Directory.filesOfSaved, filesOf]
      cases final : (j.savesOf place.key).getLast? with
      | none =>
        rw [filesOf, sound.last place, final, List.getLast?_eq_none_iff.mp final]
        rfl
      | some e =>
        rw [sound.last place, final]
        rfl
    -- Neither a lock nor a temporary file is left of a save.
    | lock => rfl
    | temporary => rfl
  · rw [if_neg same] at loads saves ⊢
    funext f
    cases f <;> simp only [filesOf, loads, saves]

/-- A save leaves the files of all other builds alone, whether it is refused or not. -/
theorem Journal.Sound.filesOf_save_other {j : Journal Memory} (sound : j.Sound) (b : Build)
    {place : Reference} (other : place.key ≠ b.reference.key) :
    (BuildStore.save b j).store.filesOf place = j.filesOf place := by
  -- Whether the save is refused or not, the files of other keys stay.
  cases result : (BuildStore.save b j).result with
  | error e => rw [save_refused result]
  | ok r => rw [sound.filesOf_save result, if_neg other]

namespace Directory

open FileTree

/-- A directory in which nothing is. -/
structure Vacant (d : Directory) (r : Path) : Prop extends Rooted d r d.files where
  nothing : ∀ way, way ≠ [] → d.files.get? (r ++ way) = none

/-- A directory that holds what a journal says, and nothing else. -/
structure Depicts (d : Directory) (r : Path) (j : Journal Memory) : Prop
    extends Rooted d r d.files where
  /-- The files of every build are as they have to be. -/
  files : ∀ place : Reference, place.Whole → ∀ f,
    d.files.get? (place.spot r f) = (j.filesOf place f).map .file
  /-- Where a namespace has its place there is its directory, or nothing. -/
  rooms : ∀ place : Reference, place.Whole →
    d.files.get? (place.room r) = none ∨ d.files.get? (place.room r) = some .directory
  /-- Files are in directories. -/
  housed : ∀ place : Reference, place.Whole → ∀ f, d.files.get? (place.spot r f) ≠ none →
    d.files.get? (place.room r) = some .directory
  /-- There are no other files or directories. -/
  only : ∀ way, way ≠ [] → d.files.get? (r ++ way) ≠ none →
    ∃ place : Reference, place.Whole ∧
      (r ++ way = place.room r ∨ ∃ f, r ++ way = place.spot r f)

/-- One turn of a directory and a memory: both are asked the same, or there are changes that have nothing to
do with what is below the root. -/
inductive Turn (r : Path) : Directory × Journal Memory → Directory × Journal Memory → Prop
  | request {d : Directory} {j : Journal Memory} (q : StoreRequest) (admitted : q.Admitted d) :
      Turn r (d, j) (q.after d, q.after j)
  /-- Time passes, somebody else takes over, and other files come and go. -/
  | elsewhere {d e : Directory} {j : Journal Memory} (led : e.files.place e.root = .ok r)
      (below : ∀ way, e.files.get? (r ++ way) = d.files.get? (r ++ way)) : Turn r (d, j) (e, j)

/-- What every turn keeps: the directory holds what the journal says, and can read it. -/
structure Tracks (d : Directory) (r : Path) (j : Journal Memory) : Prop extends Depicts d r j where
  sound : j.Sound
  readable : ∀ place, ∀ b ∈ (j.store.load place).toOption, b.ReadsBack

section

variable {d e : Directory} {r : Path} {j k : Journal Memory} {place : Reference}

/-- The names of an admitted build are whole. -/
theorem Admits.toWhole (admits : d.Admits place) : place.Whole := ⟨admits.scope.whole, admits.whole⟩

/-- A build that is admitted stays admitted whatever is asked of the directory. -/
theorem Admits.after (admits : d.Admits place) (q : StoreRequest) : (q.after d).Admits place := by
  -- Only the name of the root decides which paths are short enough.
  have root : (q.after d).root = d.root := by
    cases q with
    | load place => rfl
    | save b =>
      have saves : StoreRequest.after (.save b) d = (d.save b).store := rfl
      rcases ran : (d.saveSteps b).run.run (d.files, []) with ⟨result, files, events⟩
      rw [saves, save_of_run ran]
  refine ⟨admits.scope, admits.whole, admits.plain, admits.short, fun f => ?_⟩
  rw [pathOf, scopePath, root]
  exact admits.near f

/-- An empty directory holds what a journal without saves says. -/
theorem Vacant.tracks (vacant : d.Vacant r) : d.Tracks r ⟨.empty, []⟩ where
  -- There is nothing below the root, so that every condition on what is there holds.
  toRooted := vacant.toRooted
  files := by
    intro place _ f
    rw [Reference.spot, vacant.nothing _ (by simp)]
    cases f <;> rfl
  rooms := fun place _ => .inl (vacant.nothing _ (by simp))
  housed := fun place _ f there => absurd (vacant.nothing _ (by simp)) there
  only := fun way some_ there => absurd (vacant.nothing way some_) there
  sound := Journal.sound_empty
  readable := by
    intro place b loaded
    cases loaded

/-- The path of a build shows what the memory holds. -/
theorem Tracks.buildIn? (tracks : d.Tracks r j) (admits : d.Admits place) :
    Directory.buildIn? d.files (d.path place) = .ok (j.store.load place).toOption := by
  have whole := admits.toWhole
  rcases tracks.rooms place whole with absent | room
  · -- Without a directory of its namespace there is no file of the build, and none was saved.
    have nowhere : d.files.contains (d.path place) = false := by
      have led : d.files.place (d.path place) = .error .missing := by
        change d.files.place (d.pathOf place .current) = _
        rw [tracks.toRooted.place_pathOf admits, follow, absent]
      rw [contains, find?, led]
      rfl
    -- A file would stand in a directory, which is absent.
    have unsaved : d.files.get? (place.spot r .current) = none := by
      by_contra there
      rw [tracks.housed place whole .current there] at absent
      cases absent
    rw [tracks.files place whole .current] at unsaved
    have empty : (j.store.load place).toOption = none := by simpa [Journal.filesOf] using unsaved
    rw [Directory.buildIn?, nowhere, empty]
    rfl
  -- With the directory there, the files of the build are those of the memory.
  · have filled : Filled d r place d.files (j.filesOf place) d.files :=
      ⟨⟨tracks.toRooted, room⟩, tracks.files place whole, fun _ _ _ => rfl, rfl⟩
    exact filled.buildIn?_path admits rfl (tracks.readable place)

/-- A directory loads what the memory loads. -/
theorem Tracks.load (tracks : d.Tracks r j) (admits : d.Admits place) :
    d.load place = j.store.load place := by
  -- Both loads fail or succeed on the same build.
  rw [Directory.load, tracks.buildIn? admits]
  unfold Memory.load
  cases j.store.builds.get? place.key <;> rfl

/-- When the files of one build become what they have to be, the directory holds what it has to. -/
theorem Depicts.of_filled (depicts : d.Depicts r j) (whole : place.Whole) {u : FileTree}
    (filled : Filled d r place d.files (k.filesOf place) u)
    (others : ∀ other : Reference, other.Whole → other ≠ place → k.filesOf other = j.filesOf other) :
    Depicts { d with files := u } r k where
  led := filled.housed.led
  directory := filled.housed.directory
  -- The files of the build have been filled in, and those of any other stay.
  files := by
    intro other otherWhole f
    by_cases same : other = place
    · rw [same]
      exact filled.files f
    · rw [others other otherWhole same, ← depicts.files other otherWhole f]
      exact filled.others _ (by simp) (by simp [same])
  rooms := by
    intro other otherWhole
    by_cases same : other.room r = place.room r
    · rw [same]
      exact .inr filled.housed.room
    · -- The directory of another namespace is no place that a save changes.
      change u.get? _ = none ∨ u.get? _ = some .directory
      rw [filled.others _ same (fun f => (Reference.spot_ne_room place other r f).symm)]
      exact depicts.rooms other otherWhole
  housed := by
    intro other otherWhole f there
    change u.get? _ = some .directory
    by_cases same : other.room r = place.room r
    · rw [same]
      exact filled.housed.room
    · -- A build of another namespace has other files.
      have different : other ≠ place := by
        rintro rfl
        exact same rfl
      rw [filled.others _ same (fun f => (Reference.spot_ne_room place other r f).symm)]
      refine depicts.housed other otherWhole f ?_
      rw [← filled.others (other.spot r f) (by simp) (by simp [different])]
      exact there
  only := by
    intro way some_ there
    -- Whatever is there is a place of the build, or it was there before.
    by_cases room : r ++ way = place.room r
    · exact ⟨place, whole, .inl room⟩
    by_cases spot : ∃ f, r ++ way = place.spot r f
    · exact ⟨place, whole, .inr spot⟩
    · refine depicts.only way some_ ?_
      rw [← filled.others (r ++ way) room (fun f same => spot ⟨f, same⟩)]
      exact there

/-- A directory saves a build as the memory does, and of its files only those of the build become others. -/
theorem Tracks.filled_save {b : Build} (tracks : d.Tracks r j) (admits : d.Admits b.reference) :
    (d.save b).result = (j.store.save b).result ∧
      ∃ u, (d.save b).store = { d with files := u } ∧
        Filled d r b.reference d.files ((BuildStore.save b j).store.filesOf b.reference) u := by
  have whole := admits.toWhole
  obtain ⟨u, ran, filled⟩ := run_saveSteps [] admits rfl (tracks.readable b.reference)
    tracks.toRooted (tracks.files _ whole) (tracks.rooms _ whole) rfl
  rw [save_of_run ran]
  cases outcome : b.conflict? (j.store.load b.reference).toOption with
  | some e =>
    -- Both stores refuse the build, and at most an empty directory is new.
    rw [outcome] at filled
    have refused : (j.store.save b).result = .error e := by
      rw [Memory.toOption_load] at outcome
      rw [Memory.save, outcome]
    rw [refused, Journal.save_refused refused]
    exact ⟨rfl, u, rfl, filled⟩
  | none =>
    rw [outcome] at filled
    -- Both stores accept it, and the files become those of the new version.
    have saved : (j.store.save b).result = .ok b.nextVersion := by
      rw [Memory.toOption_load] at outcome
      rw [Memory.save, outcome]
    rw [tracks.sound.filesOf_save saved, if_pos rfl]
    exact ⟨saved.symm, u, rfl, filled⟩

/-- A directory saves a build as the memory does, and holds what it has to afterwards. -/
theorem Tracks.save {b : Build} (tracks : d.Tracks r j) (admits : d.Admits b.reference)
    (readable : b.nextVersion.ReadsBack) :
    (d.save b).result = (j.store.save b).result ∧
      (d.save b).store.Tracks r (BuildStore.save b j).store := by
  have whole := admits.toWhole
  obtain ⟨result, u, same, filled⟩ := tracks.filled_save admits
  -- No other key is that of the namespace and the name of the build.
  have depicts : Depicts { d with files := u } r (BuildStore.save b j).store :=
    tracks.toDepicts.of_filled whole filled fun other otherWhole different =>
      tracks.sound.filesOf_save_other b fun key =>
        different (Reference.eq_of_key otherWhole.name whole.name key)
  rw [same]
  refine ⟨result, depicts, ?_, ?_⟩
  -- Whether the save succeeds or not, the memory beside the directory stays sound.
  · cases saved : (BuildStore.save b j).result with
    | error e =>
      rw [Journal.save_refused saved]
      exact tracks.sound
    | ok stored => exact tracks.sound.save saved
  · intro place c stored
    cases saved : (j.store.save b).result with
    | error e =>
      rw [Journal.save_refused saved] at stored
      exact tracks.readable place c stored
    | ok kept =>
      have store : (BuildStore.save b j).store.store = (j.store.save b).store := rfl
      rw [store, Memory.load_of_saved saved] at stored
      split at stored
      · -- What the memory gives is the build that has just been saved.
        obtain rfl := (Memory.of_saved saved).2
        cases stored
        exact readable
      · exact tracks.readable place c stored

/-- Changes that have nothing to do with what is below the root change nothing of what the directory holds. -/
theorem Tracks.elsewhere (tracks : d.Tracks r j) (led : e.files.place e.root = .ok r)
    (below : ∀ way, e.files.get? (r ++ way) = d.files.get? (r ++ way)) : e.Tracks r j where
  -- All conditions speak of places below the root, where nothing has changed.
  led := led
  directory := by
    have root := below []
    rw [List.append_nil] at root
    rw [root, tracks.directory]
  files := fun place whole f => (below _).trans (tracks.files place whole f)
  rooms := by
    intro place whole
    rw [Reference.room, below]
    exact tracks.rooms place whole
  housed := by
    intro place whole f there
    rw [Reference.spot, below] at there
    rw [Reference.room, below]
    exact tracks.housed place whole f there
  only := by
    intro way some_ there
    rw [below] at there
    exact tracks.only way some_ there
  sound := tracks.sound
  readable := tracks.readable

/-- A directory answers every request as the memory does, and keeps up with it. -/
theorem Tracks.request (tracks : d.Tracks r j) {q : StoreRequest} (admitted : q.Admitted d) :
    q.answer d = q.answer j.store ∧ (q.after d).Tracks r (q.after j) := by
  -- A load leaves both stores alone.
  cases q with
  | save b => exact tracks.save admitted.1 admitted.2
  | load place => exact ⟨tracks.load admitted, tracks⟩

/-- Every turn keeps what the directory and the journal have to do with each other. -/
theorem Tracks.turn (tracks : d.Tracks r j) (turn : Turn r (d, j) (e, k)) : e.Tracks r k := by
  -- Either a request goes to both stores, or something happens elsewhere in the tree.
  cases turn with
  | request q admitted => exact (tracks.request admitted).2
  | elsewhere led below => exact tracks.elsewhere led below

/-- A directory that was empty and a memory that was empty give the same answers to the same requests, however
many there have been; and in the directory stand, for every build, what the memory holds and what was saved
before that, and nothing else. -/
theorem refines_memory (vacant : d.Vacant r)
    (turns : Relation.ReflTransGen (Turn r) (d, ⟨.empty, []⟩) (e, j)) :
    (∀ q : StoreRequest, q.Admitted e → q.answer e = q.answer j.store) ∧ e.Depicts r j := by
  have tracks : ∀ p : Directory × Journal Memory,
      Relation.ReflTransGen (Turn r) (d, ⟨.empty, []⟩) p → p.1.Tracks r p.2 := by
    -- The induction is on the turns, from both stores empty.
    intro p turns
    induction turns with
    | refl => exact vacant.tracks
    | tail _ turn tracks => exact tracks.turn turn
  have tracks := tracks (e, j) turns
  exact ⟨fun q admitted => (tracks.request admitted).1, tracks.toDepicts⟩

end

/-- A directory without builds. -/
def emptyDirectory : Directory := ⟨FileTree.empty.put ["builds"] .directory, "/builds", "host", .epoch⟩

/-- A build that has not been saved, with the name of a file. -/
def unsavedBuild : Build := ⟨⟨"ns", "a.json"⟩, 0, ⟨[], .pod, .zero⟩, .fresh⟩

/-- Nothing is in the directory without builds. -/
theorem emptyDirectory_vacant : emptyDirectory.Vacant ["builds"] where
  led := by decide +kernel
  directory := by decide +kernel
  -- The only directory that has been made is the root.
  nothing := by
    intro way some_
    change (FileTree.empty.put ["builds"] .directory).get? _ = none
    rw [get?_put, if_neg (by simp [some_])]
    rfl

/-- The directory can have files of the build. -/
theorem emptyDirectory_admits : emptyDirectory.Admits unsavedBuild.reference where
  scope := by constructor <;> decide
  whole := by decide
  plain := by decide
  -- The bounds on the lengths are checked for each of the four files.
  short := by
    intro f
    cases f <;> decide
  near := by
    intro f
    cases f <;> decide

/-- A build is saved twice, and is loaded then under its second version. -/
theorem refines_memory_savedTwice :
    let first : StoreRequest := .save unsavedBuild
    let second : StoreRequest := .save unsavedBuild.nextVersion
    let d := second.after (first.after emptyDirectory)
    let j : Journal Memory := second.after (first.after ⟨.empty, []⟩)
    (StoreRequest.load unsavedBuild.reference).answer d = .ok unsavedBuild.nextVersion.nextVersion ∧
      d.Depicts ["builds"] j := by
  intro first second d j
  have firstRead : unsavedBuild.nextVersion.ReadsBack := by
    unfold Build.ReadsBack
    decide +kernel
  have secondRead : unsavedBuild.nextVersion.nextVersion.ReadsBack := by
    unfold Build.ReadsBack
    decide +kernel
  have admits := emptyDirectory_admits.after first
  -- The run consists of two saves, the second one of the build as the first returned it.
  have turns : Relation.ReflTransGen (Turn ["builds"]) (emptyDirectory, ⟨.empty, []⟩) (d, j) :=
    .tail (.single (.request first ⟨emptyDirectory_admits, firstRead⟩))
      (.request second ⟨admits, secondRead⟩)
  obtain ⟨answers, depicts⟩ := refines_memory emptyDirectory_vacant turns
  refine ⟨?_, depicts⟩
  rw [answers (.load unsavedBuild.reference) (admits.after second)]
  decide +kernel

end Directory

end ImageBuild
