import ImageBuild.Dict.Laws
import ImageBuild.Proofs.Context.Paths
import ImageBuild.Proofs.Json.Text
import ImageBuild.Proofs.Platform.Json

/-! Which lists of files become the contents of a context, and where each file of them stands then. -/

namespace ImageBuild

open Kubernetes

namespace Context

/-- Bytes that are a text are those of that text. -/
theorem toBytes_of_ofBytes? {bytes : Bytes} {text : String}
    (read : Text.ofBytes? bytes = some text) : Text.toBytes text = bytes := by
  -- A text that is read from bytes holds these very bytes.
  unfold Text.ofBytes? String.fromUTF8? at read
  split at read
  · obtain rfl := Option.some.inj read
    rfl
  · cases read

/-- A file is taken under a path that its target means and whose key is short enough. -/
structure Takes (file : ContextFile) (path : String) : Prop where
  means : Means file.target path
  short : (key path).utf8ByteSize ≤ maxKeyLength

namespace Contents

/-- The contents are those of some files under their paths, in the order of these. -/
structure Keeps (c : Contents) (entries : List (ContextFile × String)) : Prop where
  distinct : (entries.map (·.2)).Nodup
  paths : ∀ k, c.paths.get? k = (entries.find? (fun e => key e.2 = k)).map (·.2)
  data : ∀ k, c.data.get? k =
    (entries.find? (fun e => key e.2 = k)).bind (fun e => Text.ofBytes? e.1.content)
  binaryData : ∀ k, c.binaryData.get? k = (entries.find? (fun e => key e.2 = k)).bind
    (fun e => if (Text.ofBytes? e.1.content).isSome then none else some e.1.content)

theorem keeps_empty : Keeps empty [] := ⟨.nil, fun _ => rfl, fun _ => rfl, fun _ => rfl⟩

/-- Under the key of a path stands what was taken under that path. -/
private theorem find?_key {entries : List (ContextFile × String)} (distinct : (entries.map (·.2)).Nodup)
    {e : ContextFile × String} (member : e ∈ entries) :
    entries.find? (fun o => key o.2 = key e.2) = some e := by
  -- Keys of different paths differ, so the entries before this one are passed over.
  induction entries with
  | nil => cases member
  | cons first rest ih =>
    obtain ⟨other, distinct⟩ := List.nodup_cons.mp distinct
    rcases List.mem_cons.mp member with rfl | later
    · exact List.find?_cons_of_pos (by simp)
    · rw [List.find?_cons_of_neg, ih distinct later]
      intro same
      have path := key_injective (of_decide_eq_true same)
      exact other (List.mem_map.mpr ⟨e, later, path.symm⟩)

/-- The contents have a key when it is that of one of the paths. -/
private theorem contains_key_iff {c : Contents} {entries : List (ContextFile × String)}
    (kept : Keeps c entries) {path : String} :
    c.paths.contains (key path) = true ↔ path ∈ entries.map (·.2) := by
  rw [Dict.contains, kept.paths, Option.isSome_map, List.find?_isSome, List.mem_map]
  -- A key leads to one path only, since keys are injective.
  constructor
  · rintro ⟨e, member, same⟩
    exact ⟨e, member, key_injective (of_decide_eq_true same)⟩
  · rintro ⟨e, member, same⟩
    exact ⟨e, member, by simp [same]⟩

/-- The contents with a file more under a path that is none of those before. -/
private theorem keeps_append {c : Contents} {entries : List (ContextFile × String)}
    (kept : Keeps c entries) (file : ContextFile) {path : String}
    (other : path ∉ entries.map (·.2)) :
    Keeps (match Text.ofBytes? file.content with
      | some text => ⟨c.paths.insert (key path) path, c.data.insert (key path) text, c.binaryData⟩
      | none => ⟨c.paths.insert (key path) path, c.data,
        c.binaryData.insert (key path) file.content⟩) (entries ++ [(file, path)]) := by
  have absent : entries.find? (fun e => key e.2 = key path) = none := by
    refine List.find?_eq_none.mpr fun e member same => other ?_
    exact List.mem_map.mpr ⟨e, member, key_injective (of_decide_eq_true same)⟩
  -- Under the new key nothing was found before, and under all others nothing changes.
  have found : ∀ k, (entries ++ [(file, path)]).find? (fun e => key e.2 = k) =
      if k = key path then some (file, path) else entries.find? (fun e => key e.2 = k) := by
    intro k
    rw [List.find?_append]
    by_cases same : k = key path
    · subst same
      rw [absent, if_pos rfl]
      simp
    · rw [if_neg same, List.find?_cons_of_neg (by simpa using Ne.symm same), List.find?_nil,
        Option.or_none]
  -- The path is new, so the paths stay distinct.
  have distinct : ((entries ++ [(file, path)]).map (·.2)).Nodup := by
    rw [List.map_append, List.nodup_append_comm]
    exact List.nodup_cons.mpr ⟨other, kept.distinct⟩
  -- The bytes decide whether the content is kept as a text or as bytes.
  cases text : Text.ofBytes? file.content with
  | some text' =>
    refine ⟨distinct, fun k => ?_, fun k => ?_, fun k => ?_⟩ <;> rw [found k] <;>
      by_cases same : k = key path <;> simp [same, text, kept.paths, kept.data, kept.binaryData, absent]
  | none =>
    refine ⟨distinct, fun k => ?_, fun k => ?_, fun k => ?_⟩ <;> rw [found k] <;>
      by_cases same : k = key path <;> simp [same, text, kept.paths, kept.data, kept.binaryData, absent]

/-- A file more is taken under a path of its own. -/
theorem add_ok {c d : Contents} {entries : List (ContextFile × String)} (kept : Keeps c entries)
    {file : ContextFile} (added : add c file = .ok d) :
    ∃ path, Takes file path ∧ Keeps d (entries ++ [(file, path)]) := by
  unfold add at added
  -- A target that names no path is refused at once.
  cases found : path? file.target with
  | none =>
    rw [found] at added
    cases added
  | some path =>
    simp only [found] at added
    split at added
    · cases added
    -- After the length only a path that is taken already is refused.
    · rename_i short
      split at added
      · cases added
      · rename_i own
        have other : path ∉ entries.map (·.2) := fun member => own ((contains_key_iff kept).mpr member)
        refine ⟨path, ⟨path?_eq_some_iff.mp found, Nat.le_of_not_lt short⟩, ?_⟩
        rw [← Except.ok.inj added]
        exact keeps_append kept file other

/-- A file more is taken where its target means a path that is none of those before. -/
theorem exists_add {c : Contents} {entries : List (ContextFile × String)} (kept : Keeps c entries)
    {file : ContextFile} {path : String} (takes : Takes file path)
    (other : path ∉ entries.map (·.2)) :
    ∃ d, add c file = .ok d ∧ Keeps d (entries ++ [(file, path)]) := by
  -- None of the three refusals applies.
  have own : ¬c.paths.contains (key path) = true := fun there =>
    other ((contains_key_iff kept).mp there)
  unfold add
  simp only [path?_eq_some_iff.mpr takes.means, if_neg (Nat.not_lt.mpr takes.short), if_neg own]
  exact ⟨_, rfl, keeps_append kept file other⟩

/-- Files that are all taken are kept one after another, each under its path. -/
theorem foldlM_add_ok {files : List ContextFile} {c d : Contents}
    {entries : List (ContextFile × String)} (kept : Keeps c entries)
    (added : files.foldlM add c = .ok d) :
    ∃ more, more.map (·.1) = files ∧ (∀ e ∈ more, Takes e.1 e.2) ∧ Keeps d (entries ++ more) := by
  -- The induction is on the files; the entries kept so far grow by one each time.
  induction files generalizing c entries with
  | nil =>
    obtain rfl : c = d := Except.ok.inj added
    exact ⟨[], rfl, nofun, by simpa using kept⟩
  | cons file rest ih =>
    rw [List.foldlM_cons] at added
    cases first : add c file with
    | error e =>
      rw [first] at added
      cases added
    | ok next =>
      rw [first] at added
      obtain ⟨path, takes, kept⟩ := add_ok kept first
      obtain ⟨more, files, all, kept⟩ := ih kept added
      refine ⟨(file, path) :: more, by simp [files], ?_, by simpa using kept⟩
      -- Of the entries the new one comes first.
      rintro e member
      rcases List.mem_cons.mp member with rfl | later
      · exact takes
      · exact all e later

/-- Files of different paths are all taken. -/
theorem exists_foldlM_add {more : List (ContextFile × String)} {c : Contents}
    {entries : List (ContextFile × String)} (kept : Keeps c entries)
    (all : ∀ e ∈ more, Takes e.1 e.2) (distinct : ((entries ++ more).map (·.2)).Nodup) :
    ∃ d, (more.map (·.1)).foldlM add c = .ok d := by
  induction more generalizing c entries with
  | nil => exact ⟨c, rfl⟩
  | cons e rest ih =>
    -- The first path is none of those before, as all of them are distinct.
    have other : e.2 ∉ entries.map (·.2) := by
      rw [List.map_append, List.map_cons, List.nodup_append'] at distinct
      exact fun member => List.disjoint_left.mp distinct.2.2 member List.mem_cons_self
    obtain ⟨next, first, kept⟩ := exists_add kept (all e List.mem_cons_self) other
    obtain ⟨d, later⟩ := ih kept (fun o member => all o (List.mem_cons_of_mem _ member))
      (by simpa using distinct)
    refine ⟨d, ?_⟩
    rw [List.map_cons, List.foldlM_cons, first]
    exact later

/-- Files are accepted just where every target means a path, no key is too long and no path comes twice. -/
theorem ofFiles_ok_iff {files : List ContextFile} : (∃ c, ofFiles files = .ok c) ↔
    ∃ entries : List (ContextFile × String), entries.map (·.1) = files ∧
      (∀ e ∈ entries, Takes e.1 e.2) ∧ (entries.map (·.2)).Nodup := by
  -- An accepted list has kept entries, and a list of such entries is accepted.
  constructor
  · rintro ⟨c, accepted⟩
    obtain ⟨entries, same, all, kept⟩ := foldlM_add_ok keeps_empty accepted
    exact ⟨entries, same, all, kept.distinct⟩
  · rintro ⟨entries, rfl, all, distinct⟩
    exact exists_foldlM_add keeps_empty all distinct

end Contents

/-- The paths that are written down for a ConfigMap are read again. -/
theorem pathsOfText?_pathsText (paths : Dict String String) : pathsOfText? (pathsText paths) = some paths := by
  -- All values are strings, so the compact text reads back as the same document.
  have plain : ∀ l : List (String × String),
      Json.MembersPlain (l.map (fun e => (e.1, Json.string e.2))) := by
    intro l
    induction l with
    | nil => exact trivial
    | cons e rest ih => exact ⟨trivial, ih⟩
  have object : (Json.object (paths.entries.map (fun e => (e.1, .string e.2)))).Plain := plain _
  rw [pathsOfText?, pathsText, object.read?_compact, Option.bind_some]
  exact inverse_texts.read_write paths

/-- What a ConfigMap has under a key is a file: as a text where it is one, and as its bytes elsewhere. -/
def Stores (map : ConfigMap) (k : String) (content : Bytes) : Prop :=
  (∃ text, Text.toBytes text = content ∧ map.data.bind (·.get? k) = some text ∧
    map.binaryData.bind (·.get? k) = none) ∨
  ((∀ text, Text.toBytes text ≠ content) ∧ map.data.bind (·.get? k) = none ∧
    map.binaryData.bind (·.get? k) = some content)

/-- A dictionary that is left out when it is empty has the same values as before. -/
theorem bind_nonempty {α : Type} (d : Dict String α) (k : String) :
    (nonempty d).bind (·.get? k) = d.get? k := by
  -- An empty dictionary is left out, where a lookup would find nothing either.
  unfold nonempty
  split
  · rename_i none_
    rw [Dict.eq_empty_of_isEmpty none_]
    rfl
  · rfl

theorem keysOf_nonempty {α : Type} (d : Dict String α) : keysOf (nonempty d) = d.keys := by
  -- What is left out has no keys.
  unfold nonempty
  split
  · rename_i none_
    rw [Dict.eq_empty_of_isEmpty none_]
    rfl
  · rfl

namespace Contents

variable {stem : String} {b : Build} {c : Contents} {entries : List (ContextFile × String)}

/-- Every file of the contents is stored under the key of its path. -/
theorem Keeps.stores (kept : Keeps c entries) {e : ContextFile × String} (member : e ∈ entries) :
    Stores (configMap stem b c) (key e.2) e.1.content := by
  have found := find?_key kept.distinct member
  unfold Stores
  simp only [configMap, bind_nonempty, kept.data, kept.binaryData, found, Option.bind_some]
  -- The entry is found under its key, among the texts if its bytes are one.
  cases text : Text.ofBytes? e.1.content with
  | some text' => exact .inl ⟨text', toBytes_of_ofBytes? text, rfl, rfl⟩
  | none =>
    refine .inr ⟨fun other same => ?_, rfl, rfl⟩
    rw [← same, Text.ofBytes?_toBytes] at text
    cases text

/-- No two files have one key. -/
theorem Keeps.nodup_keys (kept : Keeps c entries) : (entries.map (fun e => key e.2)).Nodup := by
  -- Distinct paths have distinct keys.
  have paths := kept.distinct.map key_injective
  rwa [List.map_map] at paths

/-- Texts and bytes together have the keys of the paths, and each of them once. -/
theorem Keeps.perm_keys (kept : Keeps c entries) :
    (configMap stem b c).keys.Perm (entries.map (fun e => key e.2)) := by
  have keys : (configMap stem b c).keys = c.data.keys ++ c.binaryData.keys := by
    rw [ConfigMap.keys]
    simp only [configMap, keysOf_nonempty]
  -- Without duplicates on either side a permutation is the same as having the same members.
  rw [keys, List.perm_ext_iff_of_nodup _ kept.nodup_keys]
  · intro k
    rw [List.mem_append, Dict.mem_keys_iff, Dict.mem_keys_iff, kept.data, kept.binaryData,
      List.mem_map]
    constructor
    · intro found
      cases there : entries.find? (fun e => key e.2 = k) with
      | none => simp [there] at found
      | some e =>
        -- A key that is kept is that of the entry which was found for it.
        have same := List.find?_some there
        exact ⟨e, List.mem_of_find?_eq_some there, of_decide_eq_true same⟩
    · rintro ⟨e, member, rfl⟩
      rw [find?_key kept.distinct member]
      cases text : Text.ofBytes? e.1.content <;> simp [text]
  · -- What is kept as a text is not kept as bytes.
    refine List.nodup_append'.mpr ⟨c.data.nodup_keys, c.binaryData.nodup_keys, ?_⟩
    intro k text bytes
    rw [Dict.mem_keys_iff, kept.data] at text
    rw [Dict.mem_keys_iff, kept.binaryData] at bytes
    cases there : entries.find? (fun e => key e.2 = k) with
    | none => simp [there] at text
    | some e => simp_all

/-- The files that are seen are those of the contents, each under its path. -/
theorem Keeps.perm_files (kept : Keeps c entries) :
    (files (configMap stem b c)).Perm (entries.map (fun e => ⟨key e.2, e.2, []⟩)) := by
  -- The annotation holds all the paths, so that each key finds its own.
  have note : ((configMap stem b c).metadata.note? pathsNote).bind pathsOfText? = some c.paths := by
    have written : (configMap stem b c).metadata.note? pathsNote = some (pathsText c.paths) := by
      simp [configMap, Meta.note?, Dict.ofList]
    rw [written, Option.bind_some, pathsOfText?_pathsText]
  have paths : entries.map (fun e => (⟨key e.2, e.2, []⟩ : KeyPath)) =
      (entries.map (fun e => key e.2)).map
        (fun k => ⟨k, (c.paths.get? k).getD k, []⟩) := by
    rw [List.map_map]
    refine List.map_congr_left fun e member => ?_
    simp [kept.paths, find?_key kept.distinct member]
  unfold files
  rw [note, Option.getD_some, paths]
  exact kept.perm_keys.map _

end Contents

end Context

end ImageBuild
