import ImageBuild.Proofs.Store.Files

/-! What saving a build does in a directory of builds where every name is that of one file or directory: the files
of the build become others, and at most the directory of its namespace is new. -/

namespace ImageBuild

/-- The place of a file of a build below that of the directory of all builds. -/
def Reference.spot (place : Reference) (r : Path) (f : BuildFile) : Path :=
  r ++ [place.scope, place.fileName f]

/-- The place of the directory of a namespace below that of the directory of all builds. -/
def Reference.room (place : Reference) (r : Path) : Path := r ++ [place.scope]

/-- The text of the build is read as the build. -/
def Build.ReadsBack (b : Build) : Prop := (Json.read? b.toJson.pretty).bind Build.ofJson? = some b

/-- The last letter but one of the name of a file tells which one of the files of a build it is. -/
theorem Reference.letter_fileName (place : Reference) (f : BuildFile) :
    (place.fileName f).toList.reverse[1]? = f.ending.toList.reverse[1]? := by
  -- An ending has two characters at least.
  rw [fileName, String.toList_append, List.reverse_append,
    List.getElem?_append_left (by cases f <;> decide)]

/-- No name of a file of a build is that of another of its files, or of a file of another build. -/
theorem Reference.fileName_inj {place other : Reference} {f g : BuildFile} :
    place.fileName f = other.fileName g ↔ place.name = other.name ∧ f = g := by
  constructor
  · intro same
    -- The last letter but one already tells the four endings apart.
    have letter : f.ending.toList.reverse[1]? = g.ending.toList.reverse[1]? := by
      rw [← letter_fileName place, same, letter_fileName]
    obtain rfl : f = g := by
      revert letter
      cases f <;> cases g <;> decide
    exact ⟨(String.append_left_inj f.ending).mp same, rfl⟩
  · rintro ⟨name, rfl⟩
    rw [fileName, fileName, name]

/-- No file of a build has the place of another file of a build. -/
@[simp] theorem Reference.spot_inj {place other : Reference} {r : Path} {f g : BuildFile} :
    place.spot r f = other.spot r g ↔ place = other ∧ f = g := by
  -- The spot ends in the namespace and the file name.
  cases place
  cases other
  simp [spot, fileName_inj, and_assoc]

/-- No file of a build has the place of a directory of a namespace. -/
@[simp] theorem Reference.spot_ne_room (place other : Reference) (r : Path) (f : BuildFile) :
    place.spot r f ≠ other.room r := by
  simp [spot, room]

@[simp] theorem Reference.room_ne_nil (place : Reference) (r : Path) : place.room r ≠ [] := by
  simp [room]

namespace Directory

open FileTree Run

/-- A build whose namespace and name are whole names, and short enough for the names and paths of its
files. -/
structure Admits (d : Directory) (place : Reference) : Prop where
  scope : IsName place.scope
  whole : '/' ∉ place.name.toList
  plain : '\x00' ∉ place.name.toList
  short : ∀ f, (place.fileName f).utf8ByteSize ≤ maxNameLength
  near : ∀ f, (d.pathOf place f).utf8ByteSize < pathLengthLimit

section

variable {d : Directory} {place : Reference} (admits : d.Admits place)

include admits

/-- The files of an admitted build have names. -/
theorem Admits.isName (f : BuildFile) : IsName (place.fileName f) := by
  -- The ending alone is longer than the names that lead nowhere else.
  have long : 2 < (place.fileName f).toList.length := by
    rw [Reference.fileName, String.toList_append, List.length_append]
    cases f <;> simp +decide [BuildFile.ending]
  have absent : ∀ c ∉ place.name.toList, c ∉ f.ending.toList → c ∉ (place.fileName f).toList := by
    intro c outside beyond
    rw [Reference.fileName, String.toList_append, List.mem_append, not_or]
    exact ⟨outside, beyond⟩
  refine ⟨?_, ?_, ?_, absent _ admits.whole (by cases f <;> decide),
    absent _ admits.plain (by cases f <;> decide), admits.short f⟩
  all_goals
    intro same
    rw [same] at long
    exact absurd long (by decide)

end

/-- The root of the directory is a directory that is there. -/
structure Rooted (d : Directory) (r : Path) (t : FileTree) : Prop where
  led : t.place d.root = .ok r
  directory : t.get? r = some .directory

/-- The directory of the namespace is there too. -/
structure Housed (d : Directory) (r : Path) (place : Reference) (t : FileTree) : Prop
    extends Rooted d r t where
  room : t.get? (place.room r) = some .directory

section

variable {d : Directory} {r : Path} {place : Reference} {t u : FileTree}

/-- The root is the path of something. -/
theorem Rooted.nonempty (rooted : Rooted d r t) : d.root ≠ "" := nonempty_of_place rooted.led

/-- The root stays where it is as long as no directory goes. -/
theorem Rooted.mono (rooted : Rooted d r t)
    (kept : ∀ p, t.get? p = some .directory → u.get? p = some .directory) (here : u.here = t.here) :
    Rooted d r u :=
  ⟨place_mono kept here rooted.led, kept r rooted.directory⟩

/-- The directory of a namespace stays where it is as long as no directory goes. -/
theorem Housed.mono (housed : Housed d r place t)
    (kept : ∀ p, t.get? p = some .directory → u.get? p = some .directory) (here : u.here = t.here) :
    Housed d r place u :=
  ⟨housed.toRooted.mono kept here, kept _ housed.room⟩

variable (admits : d.Admits place)

include admits

/-- The path of the directory of a namespace leads below the root. -/
theorem Rooted.place_scopePath (rooted : Rooted d r t) :
    t.place (d.scopePath place) = .ok (place.room r) := by
  -- The path of a file is longer than that of its namespace.
  have short : (d.scopePath place).utf8ByteSize < pathLengthLimit :=
    Nat.lt_of_le_of_lt (utf8ByteSize_le_joined (admits.isName .current).whole) (admits.near .current)
  rw [scopePath, place_joined t rooted.nonempty admits.scope.whole admits.scope.plain short,
    rooted.led]
  exact follow_name admits.scope rooted.directory

/-- The path of a directory of a namespace is not empty. -/
theorem Rooted.scopePath_nonempty (rooted : Rooted d r t) : d.scopePath place ≠ "" :=
  nonempty_of_place (rooted.place_scopePath admits)

/-- The path of a file of a build leads below the directory of the namespace, if that is there. -/
theorem Rooted.place_pathOf (rooted : Rooted d r t) (f : BuildFile) :
    t.place (d.pathOf place f) = t.follow (place.room r) [place.fileName f] := by
  -- From the directory of the namespace one more name leads to the file.
  rw [pathOf, place_joined t (rooted.scopePath_nonempty admits) (admits.isName f).whole
    (admits.isName f).plain (admits.near f), rooted.place_scopePath admits]
  rfl

/-- The path of a file of a build leads to its place. -/
theorem Housed.place_pathOf (housed : Housed d r place t) (f : BuildFile) :
    t.place (d.pathOf place f) = .ok (place.spot r f) := by
  -- The directory is there, so the name can be followed.
  rw [housed.toRooted.place_pathOf admits, follow_name (admits.isName f) housed.room]
  simp [Reference.spot, Reference.room]

end

/-- Files of one build with some contents in a tree that is else another one. -/
structure Filled (d : Directory) (r : Path) (place : Reference) (t : FileTree)
    (contents : BuildFile → Option Bytes) (u : FileTree) : Prop where
  housed : Housed d r place u
  files : ∀ f, u.get? (place.spot r f) = (contents f).map .file
  others : ∀ p, p ≠ place.room r → (∀ f, p ≠ place.spot r f) → u.get? p = t.get? p
  here : u.here = t.here

namespace Filled

variable {d : Directory} {r : Path} {place : Reference} {t u : FileTree}
  {contents : BuildFile → Option Bytes}

/-- No file of a build is a directory. -/
theorem free (filled : Filled d r place t contents u) (f : BuildFile) :
    u.get? (place.spot r f) ≠ some .directory := by
  -- There is a file or nothing.
  rw [filled.files]
  cases contents f <;> simp

/-- Only what is in the files counts. -/
theorem congr (filled : Filled d r place t contents u) {others : BuildFile → Option Bytes}
    (same : ∀ f, contents f = others f) : Filled d r place t others u :=
  funext same ▸ filled

/-- The files of a build are in their places. -/
theorem laid (filled : Filled d r place t contents u) (admits : d.Admits place) :
    Laid d place (place.spot r) u contents u :=
  ⟨filled.housed.place_pathOf admits, filled.files, fun _ _ => rfl, rfl⟩

/-- When only files of the build become others, all else stays as it was before. -/
theorem of_laid {v : FileTree} {later : BuildFile → Option Bytes}
    (filled : Filled d r place t contents u) (laid : Laid d place (place.spot r) u later v) :
    Filled d r place t later v where
  -- No spot of the build is a directory, so that the directories above them stay.
  housed := filled.housed.mono (laid.directory filled.free) laid.here
  files := laid.files
  others := fun p outside beside => (laid.others p beside).trans (filled.others p outside beside)
  here := laid.here.trans filled.here

end Filled

section

variable {d : Directory} {r : Path} {place : Reference} {t u : FileTree}
  {contents : BuildFile → Option Bytes} (events : List Log.Event) (admits : d.Admits place)

include admits

/-- The directory of a namespace is made unless it is there, and all else stays. -/
theorem run_makeRoom (rooted : Rooted d r t)
    (files : ∀ f, t.get? (place.spot r f) = (contents f).map .file)
    (free : t.get? (place.room r) = none ∨ t.get? (place.room r) = some .directory) :
    ∃ u, (d.makeRoom place).run.run (t, events) = (.ok (), u, events) ∧
      Filled d r place t contents u := by
  -- The directory that is looked for is that of the namespace.
  have parent : parentPath (d.path place) = d.scopePath place :=
    parentPath_joined (rooted.scopePath_nonempty admits)
      (endsInSlash_joined rooted.nonempty admits.scope.nonempty admits.scope.whole)
      (admits.isName .current).whole
  have contained := contains_of_place (rooted.place_scopePath admits)
  rw [makeRoom, parent, SaveM.run_files, contained]
  -- The directory is made only where it is missing.
  rcases free with absent | there
  · rw [absent]
    refine ⟨t.put (place.room r) .directory,
      SaveM.run_change (makeDirectory_joined admits.scope rooted.led rooted.directory absent),
      ⟨rooted.mono ?_ (t.here_put _ _), ?_⟩, ?_, ?_, t.here_put _ _⟩
    · -- A directory in a new place leaves those in all others.
      intro p directory
      rw [get?_put, directory]
      split <;> rfl
    · simp [get?_put]
    · intro f
      simp [get?_put, files]
    · intro p outside _
      rw [get?_put, if_neg (fun same => outside same.1)]
  · rw [there]
    exact ⟨t, rfl, ⟨rooted, there⟩, files, fun _ _ _ => rfl, rfl⟩

end

/-- What has been written is read from the file again. -/
theorem storedIn_bytes {stored : Option Build} (readable : ∀ b ∈ stored, b.ReadsBack) :
    storedIn (stored.map Build.bytes) = .ok stored := by
  -- The printed text is parsed and read as the build.
  cases stored with
  | none => rfl
  | some b =>
    have read : (Json.read? b.toJson.pretty).bind Build.ofJson? = some b := readable b rfl
    simp [storedIn, Build.bytes, read]

/-- A build may take the place of one that has been written unless the two are in conflict. -/
theorem verdict_bytes (b : Build) {stored : Option Build} (readable : ∀ c ∈ stored, c.ReadsBack) :
    verdict b (stored.map Build.bytes) =
      match b.conflict? stored with
      | some e => .error e
      | none => .ok () := by
  cases conflict : b.conflict? stored <;> simp only [verdict, storedIn_bytes readable, conflict]

/-- The build that was written is found. -/
theorem Filled.buildIn?_path {d : Directory} {r : Path} {place : Reference} {t u : FileTree}
    {contents : BuildFile → Option Bytes} (admits : d.Admits place)
    (filled : Filled d r place t contents u) {stored : Option Build}
    (current : contents .current = stored.map Build.bytes)
    (readable : ∀ b ∈ stored, b.ReadsBack) : buildIn? u (d.path place) = .ok stored := by
  rw [(filled.laid admits).buildIn?_path, current, storedIn_bytes readable]

/-- Saving a build ends in its conflict with the build that is stored, or has written the build; whatever has
happened, no lock is left, and only files of the build are others than before. -/
theorem run_saveSteps {d : Directory} {r : Path} {b : Build} {t : FileTree}
    {contents : BuildFile → Option Bytes} (events : List Log.Event) (admits : d.Admits b.reference)
    {stored : Option Build} (current : contents .current = stored.map Build.bytes)
    (readable : ∀ c ∈ stored, c.ReadsBack) (rooted : Rooted d r t)
    (files : ∀ f, t.get? (b.reference.spot r f) = (contents f).map .file)
    (free : t.get? (b.reference.room r) = none ∨ t.get? (b.reference.room r) = some .directory)
    (unlocked : contents .lock = none) :
    ∃ u, (d.saveSteps b).run.run (t, events) =
        (match b.conflict? stored with
          | some e => .error e
          | none => .ok b.nextVersion, u, events) ∧
      Filled d r b.reference t
        (match b.conflict? stored with
          | some _ => contents
          | none => filesOfSaved b contents) u := by
  obtain ⟨u, room, made⟩ := run_makeRoom events admits rooted files free
  have laid := made.laid admits
  -- The lock is one more file of the build, and the only one that the later steps take back.
  obtain ⟨w, ran, after⟩ := (laid.put .lock (Text.toBytes d.lockText)).run_saveSteps room
    (laid.run_lock events unlocked 1) (Function.update_self ..)
  rw [Function.update_of_ne (by decide), current, verdict_bytes b readable] at ran after
  refine ⟨w, ?_, (made.of_laid after).congr fun f => ?_⟩
  · rw [ran]
    cases b.conflict? stored <;> rfl
  · cases b.conflict? stored <;> cases f <;> simp [filesOfSaved, unlocked]

end Directory

end ImageBuild
