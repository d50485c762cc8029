import ImageBuild.FileTree.Laws
import Mathlib.Data.List.Induction
import Mathlib.Data.List.Infix
import Mathlib.Data.List.Nodup

/-! Files that are to stand in one tree: there is a tree for them just if none of them is to be a directory on the way
to another one. -/

namespace ImageBuild.FileTree

variable {t : FileTree} {p : Path} {e : Entry}

/-- Whether everything in a tree stands in a directory. -/
def IsRooted (t : FileTree) : Prop := ∀ p name e, t.get? (p ++ [name]) = some e → t.get? p = some .directory

/-- On the way to something there are directories. -/
theorem IsRooted.directory_of_append (rooted : t.IsRooted) {way : Path} (proper : way ≠ [])
    (there : t.get? (p ++ way) = some e) : t.get? p = some .directory := by
  -- The induction is on the way, from its last name: each place on it is the parent of the next.
  induction way using List.reverseRecOn generalizing e with
  | nil => exact absurd rfl proper
  | append_singleton way name ih =>
    rw [← List.append_assoc] at there
    have parent := rooted _ _ _ there
    by_cases last : way = []
    · rwa [last, List.append_nil] at parent
    · exact ih last parent

/-- The tree with several entries more, one after the other. -/
def putAll (t : FileTree) (entries : List (Path × Entry)) : FileTree :=
  entries.foldl (fun t e => t.put e.1 e.2) t

/-- The last entry is put last. -/
theorem putAll_append (t : FileTree) (entries : List (Path × Entry)) (p : Path) (e : Entry) :
    t.putAll (entries ++ [(p, e)]) = (t.putAll entries).put p e := by
  -- The last entry is put last.
  rw [putAll, List.foldl_append]
  rfl

/-- Where nothing is put nothing changes. -/
theorem get?_putAll_of_not_mem {entries : List (Path × Entry)} (other : p ∉ entries.map Prod.fst) :
    (t.putAll entries).get? p = t.get? p := by
  -- An entry at another place does not change what is found here.
  induction entries using List.reverseRecOn with
  | nil => rfl
  | append_singleton entries last ih =>
    rw [List.map_append, List.mem_append, not_or] at other
    rw [putAll_append, get?_put, if_neg, ih other.1]
    exact fun same => other.2 (List.mem_singleton.mpr same.1)

/-- What is put into a place is there, unless something else is. -/
theorem get?_putAll_of_mem {entries : List (Path × Entry)} (member : (p, e) ∈ entries) (below : p ≠ [])
    (only : ∀ o, (p, o) ∈ entries → o = e) : (t.putAll entries).get? p = some e := by
  induction entries using List.reverseRecOn with
  | nil => cases member
  | append_singleton entries last ih =>
    rw [putAll_append, get?_put]
    -- Whether the last entry is at this place or not, the same entry is found.
    by_cases same : p = last.1
    · rw [if_pos ⟨same, same ▸ below⟩]
      exact congrArg some (only _ (List.mem_append_right _ (List.mem_singleton.mpr (Prod.ext same rfl))))
    · rw [if_neg fun here => same here.1]
      refine ih ?_ fun o inside => only o (List.mem_append_left _ inside)
      refine (List.mem_append.mp member).resolve_right fun here => same ?_
      exact congrArg Prod.fst (List.mem_singleton.mp here)

/-- The files are in the tree, each in its place. -/
def Holds (t : FileTree) (files : List (Path × Bytes)) : Prop :=
  ∀ f ∈ files, t.get? f.1 = some (.file f.2)

/-- The tree of some files, with the directories on the way to them. -/
def ofFiles (files : List (Path × Bytes)) : FileTree :=
  (empty.putAll (files.flatMap fun f => f.1.inits.map fun p => (p, .directory))).putAll
    (files.map fun f => (f.1, .file f.2))

section

variable {files : List (Path × Bytes)}

/-- Files in different places are all there. -/
theorem holds_ofFiles (below : ∀ f ∈ files, f.1 ≠ []) (distinct : (files.map Prod.fst).Nodup) :
    (ofFiles files).Holds files := by
  intro f member
  refine get?_putAll_of_mem (List.mem_map.mpr ⟨f, member, rfl⟩) (below f member) fun o other => ?_
  obtain ⟨g, inside, same⟩ := List.mem_map.mp other
  obtain ⟨place, rfl⟩ := Prod.mk.inj same
  -- Two files in one place are one file.
  rw [List.inj_on_of_nodup_map distinct inside member place]

/-- What is in the tree is a file or on the way to one. -/
theorem exists_of_get?_ofFiles (below : p ≠ []) (there : (ofFiles files).get? p = some e) :
    ∃ f ∈ files, p <+: f.1 := by
  -- What is there is one of the files or a directory that was made for one.
  by_cases file : p ∈ (files.map fun f => (f.1, Entry.file f.2)).map Prod.fst
  · simp only [List.map_map, List.mem_map, Function.comp_apply] at file
    obtain ⟨f, member, rfl⟩ := file
    exact ⟨f, member, List.prefix_rfl⟩
  · rw [ofFiles, get?_putAll_of_not_mem file] at there
    by_cases way : p ∈ (files.flatMap fun f => f.1.inits.map fun p => (p, Entry.directory)).map Prod.fst
    · simpa using way
    · rw [get?_putAll_of_not_mem way, get?, if_neg below] at there
      cases there

/-- On the way to a file there is a directory, unless there is a file. -/
theorem directory_of_prefix {f : Path × Bytes} (member : f ∈ files) (before : p <+: f.1)
    (free : p ∉ files.map Prod.fst) : (ofFiles files).get? p = some .directory := by
  -- The root is always there, and all other prefixes have been put.
  by_cases root : p = []
  · rw [root, get?_root]
  · -- The files are put into other places.
    rw [ofFiles, get?_putAll_of_not_mem (by rwa [List.map_map])]
    refine get?_putAll_of_mem ?_ root fun o other => ?_
    · exact List.mem_flatMap.mpr ⟨f, member, List.mem_map.mpr ⟨p, (List.mem_inits p f.1).mpr before, rfl⟩⟩
    · -- Only directories have been put there before the files.
      obtain ⟨g, _, inside⟩ := List.mem_flatMap.mp other
      obtain ⟨q, _, same⟩ := List.mem_map.mp inside
      exact (Prod.mk.inj same).2.symm

/-- Files in different places below the root can stand in one tree just if none of them is on the way to another one. -/
theorem exists_holds_iff (below : ∀ f ∈ files, f.1 ≠ []) (distinct : (files.map Prod.fst).Nodup) :
    (∃ t : FileTree, t.IsRooted ∧ t.Holds files) ↔
      ∀ f ∈ files, ∀ g ∈ files, ∀ way, g.1 = f.1 ++ way → way = [] := by
  constructor
  · rintro ⟨t, rooted, holds⟩ f first g last way same
    by_contra proper
    have there := holds g last
    rw [same] at there
    -- What the way goes through is a directory, and not the file that stands there.
    have directory := rooted.directory_of_append proper there
    rw [holds f first] at directory
    cases directory
  · -- The tree of the files stands on directories, since what is in it is on the way to a file.
    refine fun apart => ⟨ofFiles files, fun p name e there => ?_, holds_ofFiles below distinct⟩
    obtain ⟨f, member, before⟩ := exists_of_get?_ofFiles (by simp) there
    refine directory_of_prefix member ((List.prefix_append p [name]).trans before) fun taken => ?_
    obtain ⟨g, inside, rfl⟩ := List.mem_map.mp taken
    obtain ⟨rest, same⟩ := before
    -- A file on the way to another one was excluded.
    have none := apart g inside f member ([name] ++ rest) (by rw [← same, List.append_assoc])
    cases none

end

end ImageBuild.FileTree
