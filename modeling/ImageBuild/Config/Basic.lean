import ImageBuild.Binary64.Shortest
import ImageBuild.Duration

/-! Settings of the engine. -/

namespace ImageBuild

/-- When failed builds are started again: waits grow by a factor between two bounds. -/
structure RecoveryConfig where
  minWait : Duration
  maxWait : Duration
  factor : Binary64
  attemptMax : UInt32
  deriving DecidableEq

/-- The settings of the engine. -/
structure EngineConfig where
  podNamePrefix : String
  kanikoImage : String
  buildahImage : String
  defaultTimeout : Duration
  recovery : RecoveryConfig
  deriving DecidableEq

/-- The waits where none are set: from five seconds to a minute, doubling. -/
def RecoveryConfig.standard : RecoveryConfig where
  minWait := .ofSeconds 5
  maxWait := .ofSeconds 60
  factor := .ofNat 2
  attemptMax := 5

/-- The settings where none are given. -/
def EngineConfig.standard : EngineConfig where
  podNamePrefix := "podforge"
  kanikoImage := "gcr.io/kaniko-project/executor:v1.9.0"
  buildahImage := "quay.io/buildah/stable:v1.23.3"
  defaultTimeout := .ofSeconds 300
  recovery := .standard

/-- What is wrong with settings that can be read. -/
inductive ConfigFault
  | emptyPrefix
  | smallFactor (factor : Binary64)
  | waitsOutOfOrder
  deriving DecidableEq

/-- The wording of a fault. -/
def ConfigFault.message : ConfigFault → String
  | emptyPrefix => "podNamePrefix must not be empty"
  | smallFactor factor => "recovery.factor must be >= 1, got " ++ factor.plainText
  | waitsOutOfOrder => "recovery.minWait must not exceed recovery.maxWait"

/-- The first fault of settings; an undefined factor is none. -/
def EngineConfig.fault? (c : EngineConfig) : Option ConfigFault :=
  if c.podNamePrefix.isEmpty then some .emptyPrefix
  -- Whatever is not below one passes, even a factor that is no number.
  else if c.recovery.factor.lt .one then some (.smallFactor c.recovery.factor)
  else if c.recovery.maxWait < c.recovery.minWait then some .waitsOutOfOrder
  else none

end ImageBuild
