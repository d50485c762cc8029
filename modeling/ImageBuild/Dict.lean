/-! Finite maps kept in key order, so that equal contents are equal maps. -/

namespace ImageBuild

/-- A finite map, listed by strictly increasing key. -/
structure Dict (κ : Type) (β : Type) [Ord κ] where
  entries : List (κ × β)
  ordered : entries.Pairwise (fun a b => compare a.1 b.1 = .lt)

namespace Dict

variable {κ β γ : Type} [Ord κ]

instance [DecidableEq κ] [DecidableEq β] : DecidableEq (Dict κ β) := fun a b =>
  -- Dictionaries are equal just if their entries are, since the order of those is no more than a fact about them.
  if same : a.entries = b.entries then
    .isTrue (by cases a; cases b; simp_all)
  else
    .isFalse (by intro equal; exact same (by rw [equal]))

/-- The map without entries. -/
def empty : Dict κ β := ⟨[], .nil⟩

instance : EmptyCollection (Dict κ β) := ⟨empty⟩

instance : Inhabited (Dict κ β) := ⟨empty⟩

/-- Whether no key is present. -/
def isEmpty (d : Dict κ β) : Bool := d.entries.isEmpty

/-- The number of keys. -/
def size (d : Dict κ β) : Nat := d.entries.length

/-- The keys in increasing order. -/
def keys (d : Dict κ β) : List κ := d.entries.map (·.1)

/-- The values in the order of their keys. -/
def values (d : Dict κ β) : List β := d.entries.map (·.2)

/-- The first value stored under a key in a list of entries. -/
def lookup (k : κ) : List (κ × β) → Option β
  | [] => none
  | (key, value) :: rest => if compare k key = .eq then some value else lookup k rest

/-- The value under a key. -/
def get? (d : Dict κ β) (k : κ) : Option β := lookup k d.entries

/-- Whether a key is present. -/
def contains (d : Dict κ β) (k : κ) : Bool := (d.get? k).isSome

/-- Ordered entries with one key set, in its place. -/
def put (k : κ) (v : β) : List (κ × β) → List (κ × β)
  | [] => [(k, v)]
  | (key, value) :: rest =>
    match compare k key with
    | .lt => (k, v) :: (key, value) :: rest
    | .eq => (k, v) :: rest
    | .gt => (key, value) :: put k v rest

/-- A key of the changed entries is the one that was set or was there before. -/
theorem mem_put {k : κ} {v : β} {entries : List (κ × β)} {e : κ × β}
    (member : e ∈ put k v entries) : e = (k, v) ∨ e ∈ entries := by
  -- The place of the key is looked for entry by entry: before the first one, at it, or after it.
  induction entries with
  | nil => simpa [put] using member
  | cons head rest ih =>
    obtain ⟨key, value⟩ := head
    simp only [put] at member
    split at member
    · simpa using member
    · rcases List.mem_cons.mp member with same | inside
      · exact .inl same
      · exact .inr (List.mem_cons_of_mem _ inside)
    · rcases List.mem_cons.mp member with same | inside
      · exact .inr (by simp [same])
      · exact (ih inside).imp id (List.mem_cons_of_mem _)

/-- Setting a key keeps the entries ordered. -/
theorem put_ordered [Std.TransOrd κ] [Std.LawfulEqOrd κ] (k : κ) (v : β)
    {entries : List (κ × β)}
    (ordered : entries.Pairwise (fun a b => compare a.1 b.1 = .lt)) :
    (put k v entries).Pairwise (fun a b => compare a.1 b.1 = .lt) := by
  -- The new entry goes before the first one that is above it, so that order is checked where it comes to stand.
  induction entries with
  | nil => simp [put]
  | cons head rest ih =>
    obtain ⟨key, value⟩ := head
    obtain ⟨above, tail⟩ := List.pairwise_cons.mp ordered
    simp only [put]
    split
    · rename_i before
      refine List.pairwise_cons.mpr ⟨fun e member => ?_, ordered⟩
      rcases List.mem_cons.mp member with same | inside
      · simpa [same] using before
      -- What is above the first entry is above the new one all the more.
      · exact Std.TransCmp.lt_trans before (above e inside)
    · rename_i same
      rw [Std.LawfulEqOrd.eq_of_compare same]
      exact List.pairwise_cons.mpr ⟨above, tail⟩
    -- The new key is above the first one, and goes somewhere into the rest.
    · rename_i after
      refine List.pairwise_cons.mpr ⟨fun e member => ?_, ih tail⟩
      rcases mem_put member with same | inside
      · simpa [same] using Std.OrientedCmp.gt_iff_lt.mp after
      · exact above e inside

/-- The map with a key set to a value. -/
def insert [Std.TransOrd κ] [Std.LawfulEqOrd κ] (d : Dict κ β) (k : κ) (v : β) : Dict κ β :=
  ⟨put k v d.entries, put_ordered k v d.ordered⟩

/-- The entries that pass a test. -/
def filter (keep : κ → β → Bool) (d : Dict κ β) : Dict κ β :=
  ⟨d.entries.filter (fun e => keep e.1 e.2), d.ordered.filter _⟩

/-- The map without a key. -/
def erase (d : Dict κ β) (k : κ) : Dict κ β :=
  d.filter (fun key _ => compare key k != .eq)

/-- The map with every value changed in place. -/
def map (f : κ → β → γ) (d : Dict κ β) : Dict κ γ :=
  ⟨d.entries.map (fun e => (e.1, f e.1 e.2)),
    List.pairwise_map.mpr (d.ordered.imp (fun h => h))⟩

/-- The map of a list of entries, where the last of two entries with one key counts. -/
def ofList [Std.TransOrd κ] [Std.LawfulEqOrd κ] (entries : List (κ × β)) : Dict κ β :=
  entries.foldl (fun d e => d.insert e.1 e.2) empty

end Dict

end ImageBuild
