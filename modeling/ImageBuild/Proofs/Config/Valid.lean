import ImageBuild.Config.Load
import ImageBuild.Proofs.Binary64.Order
import ImageBuild.Proofs.FileTree.Paths

/-! Settings from a file are valid, unless their factor is undefined. -/

namespace ImageBuild

/-- What settings have to be: pods get a name, and waits grow between two bounds. -/
structure EngineConfig.Valid (c : EngineConfig) : Prop where
  named : c.podNamePrefix ≠ ""
  ordered : c.recovery.minWait ≤ c.recovery.maxWait
  growing : ∃ v ∈ c.recovery.factor.value?, 1 ≤ v

/-- What a fault says about settings. -/
def ConfigFault.Of (c : EngineConfig) : ConfigFault → Prop
  | emptyPrefix => c.podNamePrefix = ""
  | smallFactor factor => factor = c.recovery.factor ∧ ∃ v ∈ factor.value?, v < 1
  | waitsOutOfOrder => c.recovery.maxWait < c.recovery.minWait

/-- Valid settings have no fault. -/
theorem EngineConfig.Valid.not_of {c : EngineConfig} (valid : c.Valid) (fault : ConfigFault) : ¬ fault.Of c := by
  intro wrong
  cases fault with
  | emptyPrefix => exact valid.named wrong
  | smallFactor factor =>
    -- The factor stands for one number only, which would be both below and not below one.
    obtain ⟨rfl, w, stands, below⟩ := wrong
    obtain ⟨v, same, above⟩ := valid.growing
    obtain rfl : v = w := Option.mem_unique same stands
    exact absurd below (not_lt.mpr above)
  | waitsOutOfOrder => exact absurd valid.ordered (Nat.not_le.mpr wrong)

namespace EngineConfig

/-- The fault that is found is one. -/
theorem of_fault? {c : EngineConfig} {fault : ConfigFault} (found : c.fault? = some fault) : fault.Of c := by
  unfold fault? at found
  -- The checks are made one after another, and the first that fails names its fault.
  split at found
  case isTrue empty =>
    obtain rfl := Option.some.inj found
    exact String.isEmpty_iff.mp empty
  case isFalse =>
    split at found
    case isTrue below =>
      obtain rfl := Option.some.inj found
      -- The factor is compared as a number, so it stands for one.
      obtain ⟨v, stands, one, known, less⟩ := Binary64.lt_iff.mp below
      rw [Binary64.value?_one] at known
      obtain rfl := Option.some.inj known
      exact ⟨rfl, v, stands, less⟩
    case isFalse =>
      split at found
      case isTrue beyond =>
        obtain rfl := Option.some.inj found
        exact beyond
      case isFalse => exact nomatch found

/-- Some fault is found just if there is one. -/
theorem fault?_eq_none_iff {c : EngineConfig} : c.fault? = none ↔ ∀ fault : ConfigFault, ¬ fault.Of c := by
  constructor
  · intro faultless fault wrong
    unfold fault? at faultless
    -- No check has failed, and each fault is what one of them looks for.
    split at faultless
    case isTrue => exact nomatch faultless
    case isFalse full =>
      split at faultless
      case isTrue => exact nomatch faultless
      case isFalse high =>
        split at faultless
        case isTrue => exact nomatch faultless
        case isFalse ordered =>
          cases fault with
          | emptyPrefix => exact full (String.isEmpty_iff.mpr wrong)
          | smallFactor factor =>
            obtain ⟨rfl, v, stands, below⟩ := wrong
            exact high (Binary64.lt_iff.mpr ⟨v, stands, 1, Binary64.value?_one, below⟩)
          | waitsOutOfOrder => exact ordered wrong
  -- A fault that is found is a fault of the settings.
  · intro sound
    cases found : c.fault? with
    | none => rfl
    | some fault => exact absurd (of_fault? found) (sound fault)

/-- Settings are valid just if they have no fault and their factor is defined. -/
theorem valid_iff {c : EngineConfig} : c.Valid ↔ c.fault? = none ∧ c.recovery.factor ≠ .nan := by
  rw [fault?_eq_none_iff]
  constructor
  · intro valid
    refine ⟨valid.not_of, fun undefined => ?_⟩
    -- An undefined factor stands for no number at all.
    obtain ⟨v, stands, _⟩ := valid.growing
    rw [undefined] at stands
    exact nomatch stands
  · intro ⟨sound, defined⟩
    obtain ⟨v, stands⟩ := Option.ne_none_iff_exists'.mp (mt Binary64.value?_eq_none_iff.mp defined)
    exact {
      named := sound .emptyPrefix
      ordered := Nat.not_lt.mp (sound .waitsOutOfOrder)
      growing := ⟨v, stands, not_lt.mp fun below => sound (.smallFactor _) ⟨rfl, v, stands, below⟩⟩ }

/-- The standard settings are valid. -/
theorem standard_valid : standard.Valid := valid_iff.mpr (by decide +kernel)

/-- A file holds a text that makes these settings. -/
def WrittenIn (c : EngineConfig) (t : FileTree) (path : String) : Prop :=
  ∃ text, t.readText path = .ok text ∧ ofText? text = some c

variable {c : EngineConfig} {t : FileTree} {path : String}

/-- A file makes no other settings. -/
theorem WrittenIn.unique {c' : EngineConfig} (written : c.WrittenIn t path) (again : c'.WrittenIn t path) :
    c = c' := by
  -- Both settings come from the same text, and reading is a function.
  obtain ⟨text, read, made⟩ := written
  obtain ⟨text', read', made'⟩ := again
  obtain rfl := Except.ok.inj (read.symm.trans read')
  exact Option.some.inj (made.symm.trans made')

/-- What is loaded is settings that the file makes, or a fault of those, or the file cannot be read. -/
theorem loadFrom_cases (t : FileTree) (path : String) :
    (∃ c : EngineConfig, c.WrittenIn t path ∧ c.fault? = none ∧ loadFrom t path = .ok c)
      ∨ (∃ c : EngineConfig, c.WrittenIn t path ∧ ∃ fault, c.fault? = some fault
          ∧ loadFrom t path = .error (.invalid fault))
      ∨ (∀ c : EngineConfig, ¬ c.WrittenIn t path)
        ∧ ((∃ fault, loadFrom t path = .error (.io fault)) ∨ loadFrom t path = .error (.parse path)) := by
  -- First the file is read, then its text is parsed, and then the settings are checked.
  cases read : t.readText path with
  | error fault =>
    refine .inr (.inr ⟨fun c ⟨text, holds, _⟩ => (nomatch read.symm.trans holds), .inl ⟨fault, ?_⟩⟩)
    simp only [loadFrom, read]
  | ok text =>
    cases made : ofText? text with
    | none =>
      refine .inr (.inr ⟨fun c ⟨text', holds, makes⟩ => ?_, .inr (by simp only [loadFrom, read, made])⟩)
      obtain rfl := Except.ok.inj (read.symm.trans holds)
      exact nomatch made.symm.trans makes
    | some c =>
      -- What has been written is accepted or refused by its checks alone.
      cases found : c.fault? with
      | none => exact .inl ⟨c, ⟨text, read, made⟩, found, by simp only [loadFrom, read, made, found]⟩
      | some fault =>
        exact .inr (.inl ⟨c, ⟨text, read, made⟩, fault, found, by simp only [loadFrom, read, made, found]⟩)

/-- Settings are loaded from a file just if it makes them, and no fault is found. -/
theorem loadFrom_eq_ok_iff : loadFrom t path = .ok c ↔ c.WrittenIn t path ∧ c.fault? = none := by
  obtain ⟨c', written, faultless, loaded⟩ | ⟨c', written, fault, found, failed⟩
    | ⟨unwritten, ⟨_, failed⟩ | failed⟩ := loadFrom_cases t path
  -- Only the first way of loading succeeds, and its settings are the ones written.
  · rw [loaded, Except.ok.injEq]
    constructor
    · rintro rfl
      exact ⟨written, faultless⟩
    · intro ⟨same, _⟩
      exact written.unique same
  · simp only [failed, reduceCtorEq, false_iff, not_and]
    intro same
    simp [← written.unique same, found]
  -- Without readable settings there is nothing to load.
  all_goals simp [failed, unwritten c]

/-- A fault is told of a file just if it is the one of the settings that the file makes. -/
theorem loadFrom_eq_invalid_iff {fault : ConfigFault} :
    loadFrom t path = .error (.invalid fault)
      ↔ ∃ c : EngineConfig, c.WrittenIn t path ∧ c.fault? = some fault := by
  obtain ⟨c', written, faultless, loaded⟩ | ⟨c', written, fault', found, failed⟩
    | ⟨unwritten, ⟨_, failed⟩ | failed⟩ := loadFrom_cases t path
  -- Settings that were loaded have no fault to report.
  · simp only [loaded, reduceCtorEq, false_iff, not_exists, not_and]
    intro c same
    simp [← written.unique same, faultless]
  · rw [failed, Except.error.injEq, ConfigError.invalid.injEq]
    constructor
    · rintro rfl
      exact ⟨c', written, found⟩
    · intro ⟨c, same, finds⟩
      obtain rfl := written.unique same
      exact Option.some.inj (found.symm.trans finds)
  -- A file that cannot be read or parsed names another error.
  all_goals simp [failed, unwritten]

/-- Settings that are loaded from a file are those that it makes, and valid unless their factor is undefined; valid
ones are always loaded. A file is called invalid just if its settings are not valid for more than an undefined factor,
and then for a fault that they have. -/
theorem loaded_settings_are_valid_iff (t : FileTree) (path : String) :
    (∀ c, loadFrom t path = .ok c →
      c.WrittenIn t path ∧ c.podNamePrefix ≠ "" ∧ c.recovery.minWait ≤ c.recovery.maxWait
        ∧ (c.Valid ↔ c.recovery.factor ≠ .nan))
      ∧ (∀ c : EngineConfig, c.WrittenIn t path → c.Valid → loadFrom t path = .ok c)
      ∧ ((∃ fault, loadFrom t path = .error (.invalid fault))
          ↔ ∃ c : EngineConfig, c.WrittenIn t path ∧ ¬ c.Valid
            ∧ (c.recovery.factor = .nan → c.podNamePrefix = "" ∨ c.recovery.maxWait < c.recovery.minWait))
      ∧ ∀ fault, loadFrom t path = .error (.invalid fault) →
          ∃ c : EngineConfig, c.WrittenIn t path ∧ fault.Of c := by
  refine ⟨fun c loaded => ?_, fun c written valid => ?_,
    ⟨fun ⟨fault, failed⟩ => ?_, fun ⟨c, written, unfit, more⟩ => ?_⟩, fun fault failed => ?_⟩
  · -- The checks let everything pass that has no fault, and an undefined factor is none.
    obtain ⟨written, faultless⟩ := loadFrom_eq_ok_iff.mp loaded
    have sound := fault?_eq_none_iff.mp faultless
    refine ⟨written, sound .emptyPrefix, Nat.not_lt.mp (sound .waitsOutOfOrder), ?_⟩
    rw [valid_iff, and_iff_right faultless]
  · exact loadFrom_eq_ok_iff.mpr ⟨written, (valid_iff.mp valid).1⟩
  · obtain ⟨c, written, found⟩ := loadFrom_eq_invalid_iff.mp failed
    have wrong := of_fault? found
    refine ⟨c, written, fun valid => valid.not_of fault wrong, fun undefined => ?_⟩
    -- A refused factor compares below one, and an undefined one does not.
    cases fault with
    | emptyPrefix => exact .inl wrong
    | smallFactor factor =>
      obtain ⟨rfl, v, stands, _⟩ := wrong
      rw [undefined] at stands
      exact nomatch stands
    | waitsOutOfOrder => exact .inr wrong
  · cases found : c.fault? with
    | some fault => exact ⟨fault, loadFrom_eq_invalid_iff.mpr ⟨c, written, found⟩⟩
    | none =>
      -- Without a fault the settings are not valid only for their undefined factor, and then there is more.
      have sound := fault?_eq_none_iff.mp found
      have undefined : c.recovery.factor = .nan := by
        by_contra defined
        exact unfit (valid_iff.mpr ⟨found, defined⟩)
      obtain empty | beyond := more undefined
      · exact absurd empty (sound .emptyPrefix)
      · exact absurd beyond (sound .waitsOutOfOrder)
  · obtain ⟨c, written, found⟩ := loadFrom_eq_invalid_iff.mp failed
    exact ⟨c, written, of_fault? found⟩

/-- A tree whose only file holds some text. -/
def treeWith (text : String) : FileTree := FileTree.empty.put ["podforge.yaml"] (.file (Text.toBytes text))

/-- The file makes the settings that its text makes. -/
theorem writtenIn_treeWith {text : String} (made : ofText? text = some c) :
    c.WrittenIn (treeWith text) "/podforge.yaml" := by
  have read : (treeWith text).read "/podforge.yaml" = .ok (Text.toBytes text) := rfl
  refine ⟨text, ?_, made⟩
  -- What is read are the bytes of a text, and those are that text.
  rw [FileTree.readText, read]
  simp only [bind, Except.bind, Text.ofBytes?_toBytes]

/-- The standard settings but for the factor of the waits. -/
def standardBy (factor : Binary64) : EngineConfig :=
  { standard with recovery := { RecoveryConfig.standard with factor } }

/-- The standard settings but for the first wait. -/
def standardAfter (minWait : Duration) : EngineConfig :=
  { standard with recovery := { RecoveryConfig.standard with minWait } }

/-- A file with one factor above one is loaded; a first wait beyond the longest, which the file leaves out, is a
fault. -/
theorem loaded_settings_are_valid_iff_oneWait :
    loadFrom (treeWith "recovery:\n  factor: 1.5\n") "/podforge.yaml"
        = .ok (standardBy (.ofDecimal false 15 (-1)))
      ∧ (standardBy (.ofDecimal false 15 (-1))).Valid
      ∧ ∃ fault, loadFrom (treeWith "recovery:\n  minWait: 2m\n") "/podforge.yaml" = .error (.invalid fault) := by
  -- One file grows the waits by a half, and the other has a least wait above the longest.
  have growing : (standardBy (.ofDecimal false 15 (-1))).WrittenIn
      (treeWith "recovery:\n  factor: 1.5\n") "/podforge.yaml" :=
    writtenIn_treeWith (by decide +kernel)
  have late : (standardAfter (.ofSeconds 120)).WrittenIn
      (treeWith "recovery:\n  minWait: 2m\n") "/podforge.yaml" :=
    writtenIn_treeWith (by decide +kernel)
  have valid : (standardBy (.ofDecimal false 15 (-1))).Valid := valid_iff.mpr (by decide +kernel)
  have beyond : ¬ (standardAfter (.ofSeconds 120)).Valid := fun valid => absurd valid.ordered (by decide)
  obtain ⟨_, loads, _, _⟩ :=
    loaded_settings_are_valid_iff (treeWith "recovery:\n  factor: 1.5\n") "/podforge.yaml"
  obtain ⟨_, _, invalid, _⟩ :=
    loaded_settings_are_valid_iff (treeWith "recovery:\n  minWait: 2m\n") "/podforge.yaml"
  exact ⟨loads _ growing valid, valid, invalid.mpr ⟨_, late, beyond, fun _ => .inr (by decide)⟩⟩

/-- A factor that is no number is loaded, although no number is at least one there. -/
theorem undefined_factor_is_loaded :
    loadFrom (treeWith "recovery:\n  factor: .nan\n") "/podforge.yaml" = .ok (standardBy .nan)
      ∧ ¬ (standardBy .nan).Valid := by
  -- The factor is read as no number, and the checks compare it without effect.
  have written : (standardBy .nan).WrittenIn (treeWith "recovery:\n  factor: .nan\n") "/podforge.yaml" :=
    writtenIn_treeWith (by decide +kernel)
  exact ⟨loadFrom_eq_ok_iff.mpr ⟨written, by decide +kernel⟩, fun valid => (valid_iff.mp valid).2 rfl⟩

end EngineConfig

end ImageBuild
