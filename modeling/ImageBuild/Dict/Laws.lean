import ImageBuild.Dict

/-! What every change does to the values of a map, and that the values determine the map. -/

namespace ImageBuild.Dict

variable {κ β : Type} [Ord κ]

/-- Nothing is found under a key that no entry has. -/
theorem lookup_eq_none {k : κ} {entries : List (κ × β)}
    (absent : ∀ e ∈ entries, compare k e.1 ≠ .eq) : lookup k entries = none := by
  induction entries with
  | nil => rfl
  | cons head rest ih =>
    obtain ⟨key, value⟩ := head
    -- The first entry has another key, and so have all the others.
    rw [lookup, if_neg (absent (key, value) List.mem_cons_self)]
    exact ih (fun e member => absent e (List.mem_cons_of_mem _ member))

/-- What is found under a key is the value of an entry with that key. -/
theorem mem_of_lookup [Std.LawfulEqOrd κ] {k : κ} {v : β} {entries : List (κ × β)}
    (found : lookup k entries = some v) : (k, v) ∈ entries := by
  induction entries with
  | nil => simp [lookup] at found
  | cons head rest ih =>
    obtain ⟨key, value⟩ := head
    rw [lookup] at found
    split at found
    · rename_i same
      -- Keys that compare as equal are one key.
      rw [Std.LawfulEqOrd.eq_of_compare same, ← Option.some.inj found]
      exact List.mem_cons_self
    · exact List.mem_cons_of_mem _ (ih found)

/-- Nothing is found among entries whose keys are all above the given one. -/
theorem lookup_of_below {k : κ} {entries : List (κ × β)}
    (below : ∀ e ∈ entries, compare k e.1 = .lt) : lookup k entries = none :=
  lookup_eq_none (fun e member same => by simp [below e member] at same)

/-- A map without entries has no value under any key. -/
@[simp] theorem get?_empty (k : κ) : (empty : Dict κ β).get? k = none := rfl

/-- The keys are listed in their order. -/
theorem keys_ordered (d : Dict κ β) : d.keys.Pairwise (fun a b => compare a b = .lt) :=
  List.pairwise_map.mpr d.ordered

/-- A key is present when it has a value. -/
theorem contains_iff (d : Dict κ β) (k : κ) : d.contains k ↔ ∃ v, d.get? k = some v :=
  Option.isSome_iff_exists

variable [Std.LawfulEqOrd κ]

/-- Setting a key changes what is found under it, and nothing else. -/
theorem lookup_put [DecidableEq κ] (k j : κ) (v : β) (entries : List (κ × β)) :
    lookup j (put k v entries) = if j = k then some v else lookup j entries := by
  -- The induction follows the entries up to the place where the new one is put.
  induction entries with
  | nil => simp [put, lookup]
  | cons head rest ih =>
    obtain ⟨key, value⟩ := head
    simp only [put]
    split
    · -- The new entry comes before all others.
      simp [lookup]
    · -- The new entry takes the place of the one with its key.
      rename_i same
      have same := Std.LawfulEqOrd.eq_of_compare same
      subst same
      by_cases asked : j = k <;> simp [lookup, asked]
    · -- The first entry stays, and its key is not the one that is set.
      rename_i after
      -- What is asked for is the first key, or is looked for in the rest.
      by_cases first : compare j key = .eq
      · have first := Std.LawfulEqOrd.eq_of_compare first
        subst first
        have other : j ≠ k := fun same => by
          subst same
          simp at after
        simp [lookup, other]
      · simp [lookup, first, ih]

/-- Under a key of ordered entries stands the value of the one entry that has it. -/
theorem lookup_of_mem {k : κ} {v : β} {entries : List (κ × β)}
    (ordered : entries.Pairwise (fun a b => compare a.1 b.1 = .lt)) (member : (k, v) ∈ entries) :
    lookup k entries = some v := by
  -- Order makes sure that no entry before the wanted one has its key.
  induction entries with
  | nil => simp at member
  | cons head rest ih =>
    obtain ⟨key, value⟩ := head
    obtain ⟨above, tail⟩ := List.pairwise_cons.mp ordered
    rcases List.mem_cons.mp member with same | inside
    · obtain ⟨rfl, rfl⟩ := Prod.mk.inj same
      simp [lookup]
    · -- A later key is above the first one, so the first entry is passed over.
      have other : compare k key ≠ .eq := fun same => by
        have before := above (k, v) inside
        rw [Std.LawfulEqOrd.eq_of_compare same] at before
        simp at before
      rw [lookup, if_neg other]
      exact ih tail inside

/-- The entries are the keys with their values. -/
theorem mem_entries_iff (d : Dict κ β) (k : κ) (v : β) : (k, v) ∈ d.entries ↔ d.get? k = some v :=
  ⟨lookup_of_mem d.ordered, mem_of_lookup⟩

/-- The keys are those with a value. -/
theorem mem_keys_iff {d : Dict κ β} {k : κ} : k ∈ d.keys ↔ (d.get? k).isSome = true := by
  -- A key comes with the value of its entry, and a value that is found with the entry it was found in.
  rw [keys, List.mem_map, Option.isSome_iff_exists]
  constructor
  · rintro ⟨e, member, rfl⟩
    exact ⟨e.2, (d.mem_entries_iff e.1 e.2).mp member⟩
  · rintro ⟨v, found⟩
    exact ⟨(k, v), (d.mem_entries_iff k v).mpr found, rfl⟩

/-- No key comes twice. -/
theorem nodup_keys (d : Dict κ β) : d.keys.Nodup := by
  -- Keys that follow one another rise, and no key is below itself.
  refine d.keys_ordered.imp fun below same => ?_
  rw [same] at below
  simp at below

/-- The values are those of the keys, one after the other. -/
theorem values_eq_filterMap (d : Dict κ β) {f : κ → Option β}
    (agrees : ∀ k v, d.get? k = some v → f k = some v) : d.values = d.keys.filterMap f := by
  -- The statement is about the entries alone, one after another, and their order does not matter.
  have general : ∀ entries : List (κ × β), (∀ e ∈ entries, f e.1 = some e.2) →
      entries.map (·.2) = (entries.map (·.1)).filterMap f := by
    intro entries each
    induction entries with
    | nil => rfl
    | cons head rest ih =>
      simp only [List.map_cons, List.filterMap_cons, each head List.mem_cons_self]
      rw [ih (fun e member => each e (List.mem_cons_of_mem _ member))]
  exact general d.entries (fun e member => agrees e.1 e.2 ((d.mem_entries_iff e.1 e.2).mp member))

/-- A test keeps the values that pass it under their keys. -/
@[simp] theorem get?_filter (keep : κ → β → Bool) (d : Dict κ β) (k : κ) :
    (d.filter keep).get? k = (d.get? k).filter (keep k) := by
  -- Both sides name the same values: those of entries that pass the test.
  apply Option.ext
  intro v
  rw [← mem_entries_iff]
  simp [filter, mem_entries_iff, Option.filter_eq_some_iff]

/-- Values that are changed in place are found under the same keys. -/
@[simp] theorem get?_map {γ : Type} (f : κ → β → γ) (d : Dict κ β) (k : κ) :
    (d.map f).get? k = (d.get? k).map (f k) := by
  obtain ⟨entries, ordered⟩ := d
  -- Only the first entry with the key matters, and it stands in the same place.
  change lookup k (entries.map (fun e => (e.1, f e.1 e.2))) = (lookup k entries).map (f k)
  clear ordered
  induction entries with
  | nil => rfl
  | cons head rest ih =>
    obtain ⟨key, value⟩ := head
    rw [List.map_cons, lookup, lookup]
    split
    · rename_i same
      rw [Std.LawfulEqOrd.eq_of_compare same]
      rfl
    · exact ih

/-- Changing values in place adds and removes no key. -/
@[simp] theorem contains_map {γ : Type} (f : κ → β → γ) (d : Dict κ β) (k : κ) :
    (d.map f).contains k = d.contains k := by
  rw [contains, contains, get?_map, Option.isSome_map]

/-- Removing a key takes away its value only. -/
@[simp] theorem get?_erase [DecidableEq κ] (d : Dict κ β) (k j : κ) :
    (d.erase k).get? j = if j = k then none else d.get? j := by
  -- Erasing lets only other keys pass.
  rw [erase, get?_filter]
  by_cases same : j = k
  · simp [same]
  · -- Another key does not compare as equal, so its value passes.
    have other : compare j k ≠ .eq := fun equal => same (Std.LawfulEqOrd.eq_of_compare equal)
    cases d.get? j <;> simp [same, other]

variable [Std.TransOrd κ]

/-- Ordered entries are determined by what is found under every key. -/
theorem entries_ext {l r : List (κ × β)}
    (left : l.Pairwise (fun a b => compare a.1 b.1 = .lt))
    (right : r.Pairwise (fun a b => compare a.1 b.1 = .lt))
    (same : ∀ k, lookup k l = lookup k r) : l = r := by
  -- The induction is on one list, and the other has to begin with the same key.
  induction l generalizing r with
  | nil =>
    cases r with
    | nil => rfl
    | cons head rest => simpa [lookup] using same head.1
  | cons first l ih =>
    cases r with
    | nil => simpa [lookup] using same first.1
    | cons second r =>
      obtain ⟨k, v⟩ := first
      obtain ⟨j, w⟩ := second
      obtain ⟨aboveLeft, tailLeft⟩ := List.pairwise_cons.mp left
      obtain ⟨aboveRight, tailRight⟩ := List.pairwise_cons.mp right
      -- The lesser of two different first keys would be found on its own side only.
      have keys : compare k j = .eq := by
        cases order : compare k j with
        | eq => rfl
        | lt =>
          -- All keys on the right are above the first one on the left.
          have missing : lookup k ((j, w) :: r) = none := lookup_of_below (fun e member => by
            rcases List.mem_cons.mp member with head | inside
            · simpa [head] using order
            · exact Std.TransCmp.lt_trans order (aboveRight e inside))
          rw [← same k] at missing
          simp [lookup] at missing
        | gt =>
          -- The other way round it is the first key on the right that the left lacks.
          have before : compare j k = .lt := Std.OrientedCmp.gt_iff_lt.mp order
          have missing : lookup j ((k, v) :: l) = none := lookup_of_below (fun e member => by
            rcases List.mem_cons.mp member with head | inside
            · simpa [head] using before
            · exact Std.TransCmp.lt_trans before (aboveLeft e inside))
          rw [same j] at missing
          simp [lookup] at missing
      have keys := Std.LawfulEqOrd.eq_of_compare keys
      subst keys
      have values : v = w := by simpa [lookup] using same k
      subst values
      -- Both rests lie above the common first key, and agree everywhere else.
      rw [ih tailLeft tailRight (fun i => by
        by_cases first : compare i k = .eq
        · have first := Std.LawfulEqOrd.eq_of_compare first
          subst first
          rw [lookup_of_below aboveLeft, lookup_of_below aboveRight]
        · simpa [lookup, first] using same i)]

/-- Maps with the same value under every key are one map. -/
theorem ext_get? {a b : Dict κ β} (same : ∀ k, a.get? k = b.get? k) : a = b := by
  -- What is known of the values settles the entries, and their order is no further data.
  obtain ⟨l, left⟩ := a
  obtain ⟨r, right⟩ := b
  have equal : l = r := entries_ext left right same
  subst equal
  rfl

/-- Setting a key changes its value only. -/
@[simp] theorem get?_insert [DecidableEq κ] (d : Dict κ β) (k j : κ) (v : β) :
    (d.insert k v).get? j = if j = k then some v else d.get? j :=
  lookup_put k j v d.entries

end ImageBuild.Dict
