import ImageBuild.Proofs.Store.Steady

/-! Stores to which it makes no difference in what order builds with different keys are saved. -/

namespace ImageBuild

namespace Memory

variable (b c : Build) (m : Memory)

/-- Whether a save is refused depends on what is under the key of the build. -/
theorem result_save : (m.save b).result =
    match b.conflict? (m.builds.get? b.reference.key) with
    | some e => .error e
    | none => .ok b.nextVersion := by
  -- The conflict alone decides on the result.
  unfold save
  cases b.conflict? (m.builds.get? b.reference.key) <;> rfl

/-- A save changes what is under the key of the build, unless it is refused. -/
theorem get?_save (key : String) : (m.save b).store.builds.get? key =
    if key = b.reference.key ∧ b.conflict? (m.builds.get? b.reference.key) = none
    then some b.nextVersion else m.builds.get? key := by
  unfold save
  -- A refused save changes no key, and any other one its own key.
  split
  · rename_i e conflict
    rw [conflict, if_neg (fun both => nomatch both.2)]
  · rename_i agreed
    simp [agreed]

variable {b c}

/-- A save leaves alone what is under the key of another build. -/
theorem get?_save_other (different : b.reference.key ≠ c.reference.key) :
    (m.save b).store.builds.get? c.reference.key = m.builds.get? c.reference.key := by
  rw [get?_save, if_neg (fun own => different own.1.symm)]

/-- A save of one build has no part in that of another one. -/
theorem result_save_save (different : b.reference.key ≠ c.reference.key) :
    ((m.save b).store.save c).result = (m.save c).result := by
  rw [result_save, result_save, m.get?_save_other different]

/-- Builds with different keys may be saved in either order. -/
theorem store_save_save (different : b.reference.key ≠ c.reference.key) :
    ((m.save b).store.save c).store = ((m.save c).store.save b).store := by
  have extensional : ∀ {m n : Memory}, (∀ key, m.builds.get? key = n.builds.get? key) → m = n :=
    fun same => congrArg Memory.mk (Dict.ext_get? same)
  apply extensional
  intro key
  rw [get?_save c, m.get?_save_other different, get?_save b (m.save c).store,
    m.get?_save_other different.symm, get?_save b, get?_save c]
  -- No key is that of both builds.
  by_cases first : key = b.reference.key
  · subst first
    simp [different]
  · simp [first]

end Memory

/-- A save makes of the files of a build the same in journals that agree about them, unless only one of them
refuses it. -/
theorem Journal.filesOf_save_congr {j k : Journal Memory} {b : Build} (soundLeft : j.Sound)
    (soundRight : k.Sound)
    (result : (BuildStore.save b j).result = (BuildStore.save b k).result)
    (files : j.filesOf b.reference = k.filesOf b.reference) :
    (BuildStore.save b j).store.filesOf b.reference =
      (BuildStore.save b k).store.filesOf b.reference := by
  -- Both saves fail or both succeed, and then they leave the same files.
  cases saved : (BuildStore.save b j).result with
  | error e => rw [save_refused saved, save_refused (result.symm.trans saved), files]
  | ok r =>
    rw [soundLeft.filesOf_save saved, soundRight.filesOf_save (result.symm.trans saved), files]

namespace Directory

/-- Files of one build and then those of another one are put into the same places as in the other order. -/
theorem Filled.get?_comm {d e d' e' : Directory} {r : Path} {first second : Reference}
    {t u v w x : FileTree} {contents others : BuildFile → Option Bytes}
    (different : first ≠ second)
    (left : Filled d r first t contents u) (leftThen : Filled e r second u others w)
    (right : Filled d' r second t others v) (rightThen : Filled e' r first v contents x)
    (p : Path) : w.get? p = x.get? p := by
  -- Places of the first build, those of the second one, and all that belongs to neither.
  have ofFirst : ∀ f, p = first.spot r f → w.get? p = x.get? p := by
    rintro f rfl
    rw [leftThen.others _ (by simp) (by simp [different]), left.files, rightThen.files]
  have ofSecond : ∀ f, p = second.spot r f → w.get? p = x.get? p := by
    rintro f rfl
    rw [rightThen.others _ (by simp) (by simp [different.symm]), right.files, leftThen.files]
  by_cases spotFirst : ∃ f, p = first.spot r f
  · exact spotFirst.elim ofFirst
  by_cases spotSecond : ∃ f, p = second.spot r f
  · exact spotSecond.elim ofSecond
  have beside : ∀ f, p ≠ first.spot r f := fun f same => spotFirst ⟨f, same⟩
  have besideToo : ∀ f, p ≠ second.spot r f := fun f same => spotSecond ⟨f, same⟩
  by_cases roomFirst : p = first.room r
  · subst roomFirst
    -- A directory that the first build needs stays when the second one needs it too.
    rw [rightThen.housed.room]
    by_cases shared : first.room r = second.room r
    · rw [shared, leftThen.housed.room]
    · rw [leftThen.others _ shared besideToo, left.housed.room]
  · by_cases roomSecond : p = second.room r
    · subst roomSecond
      rw [leftThen.housed.room, rightThen.others _ roomFirst beside, right.housed.room]
    · rw [leftThen.others _ roomSecond besideToo, left.others _ roomFirst beside,
        rightThen.others _ roomFirst beside, right.others _ roomSecond besideToo]

/-- Directories that are the same to whoever looks at their files. -/
structure Same (d e : Directory) : Prop where
  files : ∀ p, d.files.get? p = e.files.get? p
  here : d.files.here = e.files.here
  root : d.root = e.root
  holder : d.holder = e.holder
  clock : d.clock = e.clock

/-- In a directory that holds what has been saved, builds with different keys may be saved in either order. -/
theorem Tracks.orderless {d : Directory} {r : Path} {j : Journal Memory} {b c : Build}
    (tracks : d.Tracks r j) (admits : d.Admits b.reference) (admitsToo : d.Admits c.reference)
    (different : b.reference.key ≠ c.reference.key) :
    ((d.save b).store.save c).result = (d.save c).result ∧
      Same ((d.save b).store.save c).store ((d.save c).store.save b).store := by
  -- Each of the four saves does what a save in the memory beside the directory does.
  obtain ⟨resultFirst, u, first, left⟩ := tracks.filled_save admits
  obtain ⟨resultSecond, v, second, right⟩ := tracks.filled_save admitsToo
  have tracksFirst := (tracks.save admits b.nextVersion.readsBack).2
  have tracksSecond := (tracks.save admitsToo c.nextVersion.readsBack).2
  obtain ⟨resultThen, w, leftStore, leftThen⟩ :=
    tracksFirst.filled_save (b := c) (admitsToo.after (.save b))
  obtain ⟨_, x, rightStore, rightThen⟩ :=
    tracksSecond.filled_save (b := b) (admits.after (.save c))
  rw [leftStore, rightStore]
  rw [first] at leftThen ⊢
  rw [second] at rightThen ⊢
  -- What a build finds is not changed by the save of the other one, and so is what it leaves.
  have contentsSecond := Journal.filesOf_save_congr (b := c) tracksFirst.sound tracks.sound
    (j.store.result_save_save different)
    (tracks.sound.filesOf_save_other b different.symm)
  have contentsFirst := Journal.filesOf_save_congr (b := b) tracksSecond.sound tracks.sound
    (j.store.result_save_save different.symm)
    (tracks.sound.filesOf_save_other c different)
  rw [contentsSecond] at leftThen
  rw [contentsFirst] at rightThen
  refine ⟨?_, ?_, ?_, rfl, rfl, rfl⟩
  · rw [← first, resultThen, resultSecond]
    exact j.store.result_save_save different
  · exact left.get?_comm (fun same => different (congrArg Reference.key same)) leftThen right rightThen
  · change w.here = x.here
    rw [leftThen.here, left.here, rightThen.here, right.here]

end Directory

/-- A store that takes builds with different keys in either order. -/
class OrderlessStore (σ : Type) [BuildStore σ] extends SteadyStore σ where
  /-- Stores between which no look at them tells. -/
  Same : σ → σ → Prop
  same_refl : ∀ st, Same st st
  /-- The save of a build has no part in that of another one, and the store is the same whichever came first. -/
  orderless : ∀ {b c : Build} {st : σ}, Sound st → Admits st b.reference → Admits st c.reference →
    b.reference.key ≠ c.reference.key →
      (BuildStore.save c (BuildStore.save b st).store).result = (BuildStore.save c st).result ∧
        Same (BuildStore.save c (BuildStore.save b st).store).store
          (BuildStore.save b (BuildStore.save c st).store).store

/-- Of a memory nothing is left in the end that would tell which of two builds was saved first. -/
instance : OrderlessStore Memory where
  Same := Eq
  same_refl _ := rfl
  -- Two saves under different keys are two insertions that commute.
  orderless := by
    intro b c m _ _ _ different
    exact ⟨m.result_save_save different, m.store_save_save different⟩

/-- In a directory the files of different builds are apart. -/
instance : OrderlessStore Directory where
  Same := Directory.Same
  same_refl _ := ⟨fun _ => rfl, rfl, rfl, rfl, rfl⟩
  -- The directory is tracked by a memory, whose saves commute.
  orderless := by
    rintro b c d ⟨r, j, tracks⟩ admits admitsToo different
    exact tracks.orderless admits admitsToo different

/-- Without a store there is no order of saves. -/
instance {σ : Type} [BuildStore σ] [OrderlessStore σ] : OrderlessStore (Option σ) where
  Same := Option.Rel OrderlessStore.Same
  same_refl
    | none => .none
    | some st => .some (OrderlessStore.same_refl st)
  orderless := by
    intro b c st sound admits admitsToo different
    -- Without a store nothing is saved in either order.
    cases st with
    | none => exact ⟨rfl, .none⟩
    | some s =>
      obtain ⟨result, same⟩ := OrderlessStore.orderless (sound s rfl) (admits s rfl)
        (admitsToo s rfl) different
      exact ⟨result, .some same⟩

end ImageBuild
