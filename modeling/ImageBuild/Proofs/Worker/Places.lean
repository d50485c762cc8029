import ImageBuild.Build.Request
import ImageBuild.Context
import ImageBuild.Proofs.Text.Parts
import ImageBuild.Worker.Pod

/-! The places of the objects of a build: two builds share theirs just when only case tells their names apart. -/

namespace ImageBuild

namespace Text

/-- Among the characters of ASCII the case of each is changed by itself. -/
theorem toList_lower_of_ascii {s : String} (ascii : ∀ c ∈ s.toList, c.toNat < 128) :
    (lower s).toList = s.toList.map Char.toLower := by
  have general : ∀ (l before : List Char), (∀ c ∈ l, c.toNat < 128) →
      lowerFrom before l = l.map Char.toLower := by
    intro l
    induction l with
    | nil => exact fun _ _ => rfl
    | cons c rest ih =>
      intro before ascii
      have small := ascii c List.mem_cons_self
      -- The sigma whose form depends on its place is none of these characters.
      have plain : ¬c.toNat = 0x3A3 := by omega
      simp only [lowerFrom, if_neg plain, lowerChar, if_pos small,
        ih _ fun d member => ascii d (List.mem_cons_of_mem _ member)]
      rfl
  -- The letter depends on what comes before it only for the sigma, and nothing comes before the first.
  rw [lower, String.toList_ofList, general _ _ ascii]

end Text

namespace Name

/-- A name that a build may have consists of letters, digits, dashes and points. -/
theorem plain_of_isValid {name : String} (valid : isValid name = true) :
    ∀ c ∈ name.toList, isAlphanumeric c = true ∨ c = '-' ∨ c = '.' := by
  intro c member
  simp only [isValid, Bool.and_eq_true, List.all_eq_true] at valid
  rw [← Text.intercalate_splitAll '.' name.toList] at member
  rcases Text.of_mem_intercalate member with rfl | ⟨part, inside, member⟩
  · exact .inr (.inr rfl)
  -- A character between two points belongs to a segment that was checked.
  · have segment := valid.2 part inside
    unfold isSegment at segment
    split at segment
    · simp only [Bool.and_eq_true, List.all_eq_true, Bool.or_eq_true, decide_eq_true_eq] at segment
      exact (segment.2 c member).imp_right .inl
    · cases segment

/-- A name that a build may have consists of characters of ASCII. -/
theorem ascii_of_isValid {name : String} (valid : isValid name = true) :
    ∀ c ∈ name.toList, c.toNat < 128 := by
  intro c member
  rcases plain_of_isValid valid c member with letter | rfl | rfl
  · -- Letters of both cases and digits lie between their first and their last one.
    have ranged : (decide ('A'.val ≤ c.val ∧ c.val ≤ 'Z'.val) ||
        (decide ('a'.val ≤ c.val) && decide (c.val ≤ 'z'.val)) ||
        (decide ('0'.val ≤ c.val) && decide (c.val ≤ '9'.val))) = true := letter
    simp only [Bool.or_eq_true, Bool.and_eq_true, decide_eq_true_eq, UInt32.le_iff_toNat_le,
      Char.toNat_val, Char.reduceToNat] at ranged
    omega
  -- The dash and the point are given.
  · decide
  · decide

/-- A name that a build may have is no path. -/
theorem whole_of_isValid {name : String} (valid : isValid name = true) : '/' ∉ name.toList := by
  -- The slash is none of the characters of a name.
  intro slash
  exact absurd (plain_of_isValid valid '/' slash) (by decide)

end Name

/-- Whether two builds differ in no more than their versions, their work and the case of their names. -/
def Build.SameButCase (b c : Build) : Prop :=
  b.reference.scope = c.reference.scope ∧
    b.reference.name.toList.map Char.toLower = c.reference.name.toList.map Char.toLower

instance (b c : Build) : Decidable (b.SameButCase c) :=
  inferInstanceAs (Decidable (_ ∧ _))

/-- The build that answers a request has a name that is allowed. -/
theorem BuildRequest.isValid_of_build {r : BuildRequest} {b : Build} (answered : r.build = .ok b) :
    Name.isValid b.reference.name = true := by
  -- A request with any other name is refused first.
  obtain ⟨task, rfl⟩ := build_ok answered
  unfold build at answered
  split at answered
  · cases answered
  · rename_i valid
    exact Decidable.not_not.mp valid

section Places

variable {b c : Build} (named : Name.isValid b.reference.name = true)
  (otherNamed : Name.isValid c.reference.name = true)

/-- What surrounds the names of two objects is the same, so that only the names of their builds count. -/
private theorem surrounded_eq_iff (before after : String) {name other : String}
    (ascii : ∀ c ∈ name.toList, c.toNat < 128) (otherAscii : ∀ c ∈ other.toList, c.toNat < 128) :
    before ++ Text.lower name ++ after = before ++ Text.lower other ++ after ↔
      name.toList.map Char.toLower = other.toList.map Char.toLower := by
  -- What surrounds the names is the same on both sides.
  rw [← String.toList_inj, String.toList_append, String.toList_append, String.toList_append,
    String.toList_append, Text.toList_lower_of_ascii ascii, Text.toList_lower_of_ascii otherAscii,
    List.append_left_inj, List.append_right_inj]

include named otherNamed

/-- Builds share the place of their pods when they are the same but for case. -/
theorem Worker.place_eq_iff (stem : String) : place stem b = place stem c ↔ b.SameButCase c := by
  -- The namespace is that of the build, and the name tells all but the case.
  rw [place, place, Reference.mk.injEq, Build.SameButCase, Name.workerPod, Name.workerPod,
    surrounded_eq_iff _ _ (Name.ascii_of_isValid named) (Name.ascii_of_isValid otherNamed)]

/-- Builds share the place of their contexts when they are the same but for case. -/
theorem Context.place_eq_iff (stem : String) : place stem b = place stem c ↔ b.SameButCase c := by
  -- As for the pod of the build.
  rw [place, place, Reference.mk.injEq, Build.SameButCase, Name.contextMap, Name.contextMap,
    surrounded_eq_iff _ _ (Name.ascii_of_isValid named) (Name.ascii_of_isValid otherNamed)]

end Places

/-- The description of the registry of a cluster is no context. -/
theorem Context.place_ne_hostingPlace (stem : String) (b : Build) :
    place stem b ≠ Registry.hostingPlace := by
  -- The two names end in different letters.
  intro same
  have last : (place stem b).name.toList.getLast? = some 't' := by
    rw [place, Name.contextMap, String.toList_append, List.getLast?_append]
    rfl
  rw [same] at last
  exact absurd last (by decide)

end ImageBuild
