/-! The record of what happens to builds. -/

namespace ImageBuild.Log

/-- How much an event matters. -/
inductive Level
  | info
  | warn
  | error
  deriving DecidableEq

/-- The name of a level. -/
def Level.name : Level → String
  | info => "INFO"
  | warn => "WARN"
  | error => "ERROR"

/-- An event: what happened, and the values it happened with by name. -/
structure Event where
  level : Level
  message : String
  fields : List (String × String)
  deriving DecidableEq

namespace Event

/-- An event of the usual course. -/
def info (message : String) : Event := ⟨.info, message, []⟩

/-- An event that somebody should look at. -/
def warn (message : String) : Event := ⟨.warn, message, []⟩

/-- A failure. -/
def error (message : String) : Event := ⟨.error, message, []⟩

end Event

end ImageBuild.Log
