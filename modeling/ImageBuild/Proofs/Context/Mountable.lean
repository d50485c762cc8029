import ImageBuild.Proofs.Context.Replaced
import ImageBuild.Proofs.FileTree.Layout

/-! Which contexts can be mounted: those whose keys a ConfigMap may have, and whose paths can stand in one directory.
The files of a build may be accepted without that. -/

namespace ImageBuild.Context

open Kubernetes

/-- What every key of a ConfigMap looks like. -/
structure IsKeyText (k : String) : Prop where
  nonempty : k ≠ ""
  short : k.length ≤ 253
  chars : ∀ c ∈ k.toList, IsNameChar c
  here : k ≠ "."

/-- Whether a ConfigMap may have a key: it must not begin with the directory above, either. -/
def IsKey (k : String) : Prop := IsKeyText k ∧ ¬['.', '.'] <+: k.toList

/-- Whether the files of a ConfigMap can stand in one directory, each under its path. -/
def FitsDirectory (map : ConfigMap) : Prop :=
  ∃ t : FileTree, t.IsRooted ∧ ∀ item ∈ files map, ∃ content, Stores map item.key content ∧
    t.get? (Text.split '/' item.path) = some (.file content)

section Keys

variable {target path : String}

/-- A text has no more characters than bytes. -/
theorem length_le_utf8ByteSize (s : String) : s.length ≤ s.utf8ByteSize := by
  -- Every character takes one byte at least.
  rw [← String.ofList_toList (s := s)]
  induction s.toList with
  | nil => exact Nat.le_refl _
  | cons c rest ih =>
    have some_ := Char.utf8Size_pos c
    rw [String.ofList_cons, String.length_append, String.utf8ByteSize_append,
      String.utf8ByteSize_singleton, String.length_singleton]
    omega

/-- A dot is written as itself, and no other character begins with one. -/
private theorem dot_prefix_flatMap_iff (rest l : List Char) :
    '.' :: rest <+: l.flatMap encodeChar ↔
      ∃ later, l = '.' :: later ∧ rest <+: later.flatMap encodeChar := by
  -- Only the dot is encoded with a dot at the beginning.
  cases l with
  | nil => simp
  | cons c l =>
    rw [List.flatMap_cons]
    unfold encodeChar
    split <;> simp [eq_comm]

/-- Two dots begin what is written for a list of characters just if they begin the list. -/
theorem dots_prefix_flatMap_iff (l : List Char) :
    ['.', '.'] <+: l.flatMap encodeChar ↔ ['.', '.'] <+: l := by
  -- The two dots are taken off one after the other.
  simp only [dot_prefix_flatMap_iff, List.nil_prefix, and_true]
  constructor
  · rintro ⟨_, rfl, later, rfl⟩
    exact List.prefix_append ['.', '.'] later
  · rintro ⟨later, rfl⟩
    exact ⟨'.' :: later, rfl, later, rfl⟩

/-- What is written for the characters of paths can stand in a key. -/
private theorem isNameChar_of_mem_encodeChar {c d : Char} (plain : IsNameChar d ∨ d = '/')
    (member : c ∈ encodeChar d) : IsNameChar c := by
  -- A slash is written with an underscore and a dash, both of which are allowed.
  unfold encodeChar at member
  split at member
  · rw [List.mem_pair, or_self] at member
    exact .inr (.inr (.inl member))
  · rcases List.mem_pair.mp member with same | same
    · exact .inr (.inr (.inl same))
    · exact .inr (.inr (.inr same))
  · rename_i slash
    rw [List.mem_singleton.mp member]
    exact plain.resolve_right slash

/-- The key of a path looks like one of a ConfigMap. -/
theorem isKeyText_key (means : Means target path) (short : (key path).utf8ByteSize ≤ maxKeyLength) :
    IsKeyText (key path) := by
  obtain ⟨slashes, parts, -, joined, some_, names⟩ := means
  -- A key text is not empty, short, of allowed characters and not a single dot.
  refine ⟨fun empty => ?_, (length_le_utf8ByteSize _).trans short, fun c member => ?_, fun here => ?_⟩
  · -- The path of an empty key would be empty, but its names are not.
    obtain rfl : path = "" := key_injective (empty.trans (by decide))
    obtain ⟨part, inside⟩ := List.exists_mem_of_ne_nil parts some_
    obtain ⟨c, member⟩ := List.exists_mem_of_ne_nil part (names part inside).some_
    have there : c ∈ ['/'].intercalate parts := Text.mem_intercalate inside member
    rw [← joined] at there
    cases there
  -- Each character of the key comes from one of the path, which is a slash or stands in a name.
  · rw [key, String.toList_ofList] at member
    obtain ⟨d, inside, member⟩ := List.mem_flatMap.mp member
    refine isNameChar_of_mem_encodeChar ?_ member
    rw [joined] at inside
    rcases Text.of_mem_intercalate inside with same | ⟨part, named, inside⟩
    · exact .inr same
    · exact .inl ((names part named).chars d inside)
  · -- The path of such a key would have one name, which is none.
    obtain rfl : path = "." := key_injective (here.trans (by decide))
    have split := Text.splitAll_intercalate some_ fun part inside => slash_not_mem (names part inside)
    rw [← joined] at split
    have inside : ['.'] ∈ parts := by rw [← split]; decide
    exact (names _ inside).here rfl

/-- A ConfigMap may have the key of a path just if the path does not begin with two dots. -/
theorem isKey_key_iff (means : Means target path) (short : (key path).utf8ByteSize ≤ maxKeyLength) :
    IsKey (key path) ↔ ¬['.', '.'] <+: path.toList := by
  -- All that is left to check of a key are the leading dots.
  rw [IsKey, and_iff_right (isKeyText_key means short), key, String.toList_ofList,
    dots_prefix_flatMap_iff]

end Keys

section Places

/-- What is stored under a key is one file. -/
theorem Stores.unique {map : ConfigMap} {k : String} {content other : Bytes}
    (stores : Stores map k content) (also : Stores map k other) : content = other := by
  -- A key is among the texts or among the bytes, and not in both.
  rcases stores with ⟨text, rfl, data, binary⟩ | ⟨_, data, binary⟩ <;>
    rcases also with ⟨text', rfl, data', binary'⟩ | ⟨_, data', binary'⟩
  · rw [Option.some.inj (data.symm.trans data')]
  · cases data.symm.trans data'
  · cases data.symm.trans data'
  · exact Option.some.inj (binary.symm.trans binary')

/-- A path tells the names that it is made of. -/
theorem split_injective (separator : Char) : Function.Injective (Text.split separator) := by
  -- The parts joined by the separator are the text again.
  intro path other same
  have parts : Text.splitAll separator path.toList = Text.splitAll separator other.toList :=
    List.map_injective_iff.mpr (fun _ _ => String.ofList_injective) same
  rw [← String.toList_inj, ← Text.intercalate_splitAll separator path.toList, parts,
    Text.intercalate_splitAll]

/-- The names of a path are the first ones of another just if the other one goes on after the path and a slash. -/
theorem slash_prefix_iff {path other : String} :
    (path ++ "/").toList <+: other.toList ↔
      ∃ way, way ≠ [] ∧ Text.split '/' other = Text.split '/' path ++ way := by
  rw [String.toList_append]
  change path.toList ++ ['/'] <+: other.toList ↔ _
  rw [Text.append_separator_prefix_iff, Text.split, Text.split]
  -- The way is the list of names that follow the path.
  constructor
  · rintro ⟨way, proper, same⟩
    exact ⟨way.map String.ofList, by simpa using proper, by rw [same, List.map_append]⟩
  · rintro ⟨way, proper, same⟩
    refine ⟨way.map String.toList, by simpa using proper, ?_⟩
    have chars := congrArg (List.map String.toList) same
    simpa [Function.comp_def] using chars

variable {stem : String} {b : Build} {contents : Contents} {entries : List (ContextFile × String)}

/-- Files with their contents in the places that their paths name. -/
def placed (entries : List (ContextFile × String)) : List (Path × Bytes) :=
  entries.map fun e => (Text.split '/' e.2, e.1.content)

/-- The files of a context fit into one directory just if none of their paths is to be a directory of another one. -/
theorem fitsDirectory_iff (kept : Contents.Keeps contents entries) :
    FitsDirectory (configMap stem b contents) ↔
      ∀ path ∈ entries.map (·.2), ∀ other ∈ entries.map (·.2),
        ¬(path ++ "/").toList <+: other.toList := by
  have below : ∀ f ∈ placed entries, f.1 ≠ [] := List.forall_mem_map.mpr fun e _ => by
    simp [Text.split, Text.splitAll_ne_nil]
  -- Distinct paths are distinct places in the tree.
  have distinct : ((placed entries).map Prod.fst).Nodup := by
    have paths := kept.distinct.map (split_injective '/')
    rw [placed, List.map_map]
    rwa [List.map_map] at paths
  -- What a tree is to hold are the contents that the entries have, each under the names of its path.
  have fits : FitsDirectory (configMap stem b contents) ↔ ∃ t : FileTree, t.IsRooted ∧
      t.Holds (placed entries) := by
    refine exists_congr fun t => and_congr_right fun _ => ?_
    constructor
    · intro all
      refine List.forall_mem_map.mpr fun e member => ?_
      have seen : (⟨key e.2, e.2, []⟩ : KeyPath) ∈ files (configMap stem b contents) :=
        kept.perm_files.mem_iff.mpr (List.mem_map.mpr ⟨e, member, rfl⟩)
      obtain ⟨content, stores, there⟩ := all _ seen
      rwa [stores.unique (kept.stores member)] at there
    · intro holds item seen
      obtain ⟨e, member, rfl⟩ := List.mem_map.mp (kept.perm_files.mem_iff.mp seen)
      exact ⟨e.1.content, kept.stores member, List.forall_mem_map.mp holds e member⟩
  rw [fits, FileTree.exists_holds_iff below distinct]
  simp only [placed, List.forall_mem_map, slash_prefix_iff, not_exists, not_and]
  exact forall₂_congr fun e _ => forall₂_congr fun o _ =>
    ⟨fun apart way proper same => proper (apart way same),
      fun apart way same => by_contra fun proper => apart way proper same⟩

/-- Paths are meant by the targets of files just if they are found in them. -/
theorem forall₂_means_iff {given : List ContextFile} {paths : List String} :
    List.Forall₂ (fun file path => Means file.target path) given paths ↔
      given.map (fun file => path? file.target) = paths.map some := by
  -- A path that a target means is the one it is reduced to.
  rw [← List.forall₂_eq_eq_eq, List.forall₂_map_left_iff, List.forall₂_map_right_iff]
  simp only [path?_eq_some_iff]

/-- Files that are accepted are kept under the paths that their targets mean. -/
theorem exists_keeps {given : List ContextFile} (accepted : Contents.ofFiles given = .ok contents) :
    ∃ entries : List (ContextFile × String),
      List.Forall₂ (fun file path => Means file.target path) given (entries.map (·.2)) ∧
      (∀ e ∈ entries, Takes e.1 e.2) ∧ contents.Keeps entries := by
  -- The entries are the files, each with the path it has been put under.
  obtain ⟨entries, rfl, takes, kept⟩ := Contents.foldlM_add_ok Contents.keeps_empty accepted
  refine ⟨entries, ?_, takes, by simpa using kept⟩
  rw [List.forall₂_map_left_iff, List.forall₂_map_right_iff, List.forall₂_same]
  exact fun e member => (takes e member).means

/-- Files may be accepted although they cannot be mounted: a ConfigMap may have the keys of all paths but those that
begin with two dots, and the files fit into one directory just if no path of them is to be a directory of another one. -/
theorem accepted_files_mount_iff (stem : String) (b : Build) {given : List ContextFile}
    (accepted : Contents.ofFiles given = .ok contents) :
    ∃ paths : List String, List.Forall₂ (fun file path => Means file.target path) given paths ∧
      (configMap stem b contents).keys.Perm (paths.map key) ∧
      (files (configMap stem b contents)).Perm (paths.map fun path => ⟨key path, path, []⟩) ∧
      (∀ path ∈ paths, IsKeyText (key path) ∧ (IsKey (key path) ↔ ¬['.', '.'] <+: path.toList)) ∧
      (FitsDirectory (configMap stem b contents) ↔
        ∀ path ∈ paths, ∀ other ∈ paths, ¬(path ++ "/").toList <+: other.toList) := by
  obtain ⟨entries, means, takes, kept⟩ := exists_keeps accepted
  -- The paths are those of the entries, and everything else is read off what is kept.
  refine ⟨entries.map (·.2), means, ?_, ?_, ?_, ?_⟩
  · rw [List.map_map]
    exact kept.perm_keys
  · rw [List.map_map]
    exact kept.perm_files
  · refine List.forall_mem_map.mpr fun e member => ?_
    obtain ⟨means, short⟩ := takes e member
    exact ⟨isKeyText_key means short, isKey_key_iff means short⟩
  · exact fitsDirectory_iff kept

/-- A file in a directory, and one whose name begins with two dots. -/
def dottedFiles : List ContextFile := [⟨"/src/app", [104, 105]⟩, ⟨"..data", [255]⟩]

/-- Both files fit into one directory, but a ConfigMap may not have the key of the second one. -/
theorem accepted_files_mount_iff_dottedFiles :
    ∃ contents, Contents.ofFiles dottedFiles = .ok contents ∧
      FitsDirectory (configMap "podforge" contextBuild contents) ∧
      (configMap "podforge" contextBuild contents).keys.Perm ["src_-app", "..data"] ∧
      IsKey "src_-app" ∧ ¬IsKey "..data" := by
  obtain ⟨contents, accepted⟩ : ∃ contents, Contents.ofFiles dottedFiles = .ok contents := ⟨_, rfl⟩
  obtain ⟨paths, means, keys, -, good, fits⟩ := accepted_files_mount_iff "podforge" contextBuild accepted
  -- Both targets are reduced to paths, which determines the list.
  have found : dottedFiles.map (fun file => path? file.target) = ["src/app", "..data"].map some := by
    decide +kernel
  obtain rfl : paths = ["src/app", "..data"] :=
    List.map_injective_iff.mpr (Option.some_injective _) ((forall₂_means_iff.mp means).symm.trans found)
  -- Neither path is under the other, but one begins with two dots.
  refine ⟨contents, accepted, fits.mpr (by decide), keys, ?_, ?_⟩
  · exact (good "src/app" (by decide)).2.mpr (by decide)
  · exact fun allowed => (good "..data" (by decide)).2.mp allowed (by decide)

/-- A file, and another one in a directory of the same name. -/
def nestedFiles : List ContextFile := [⟨"a", []⟩, ⟨"a/b", []⟩]

/-- There are files that are accepted under a key that a ConfigMap may not have, and others of which one would have to
be a directory, too. -/
theorem unusable_files_are_accepted :
    (∃ contents, Contents.ofFiles [⟨"..data", []⟩] = .ok contents ∧
      ∃ k ∈ (configMap "podforge" contextBuild contents).keys, ¬IsKey k) ∧
    ∃ contents, Contents.ofFiles nestedFiles = .ok contents ∧
      ¬FitsDirectory (configMap "podforge" contextBuild contents) := by
  constructor
  -- Two dots at the beginning are no part of a path that names the directory above.
  · exact ⟨_, rfl, "..data", by decide +kernel, fun allowed => allowed.2 (by decide)⟩
  · obtain ⟨contents, accepted⟩ : ∃ contents, Contents.ofFiles nestedFiles = .ok contents := ⟨_, rfl⟩
    obtain ⟨entries, means, _, kept⟩ := exists_keeps accepted
    have found : nestedFiles.map (fun file => path? file.target) = ["a", "a/b"].map some := by
      decide +kernel
    have paths : entries.map (·.2) = ["a", "a/b"] :=
      List.map_injective_iff.mpr (Option.some_injective _) ((forall₂_means_iff.mp means).symm.trans found)
    refine ⟨contents, accepted, fun fits => ?_⟩
    -- A file cannot be a directory as well.
    have apart := (fitsDirectory_iff kept).mp fits
    rw [paths] at apart
    exact apart "a" (by decide) "a/b" (by decide) (by decide)

end Places

end ImageBuild.Context
