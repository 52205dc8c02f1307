/-!
# Events

What the program reports about its work while it goes on. Events never change a result.
-/

namespace ScriptLoader

/-- How much an event matters. -/
inductive EventLevel where
  | debug
  | info
  | warn
  deriving DecidableEq, Repr

/-- A report about the work. -/
structure Event where
  level : EventLevel
  message : String
  deriving DecidableEq, Repr

namespace Event

/-- A detail of the work. -/
def debug (message : String) : Event := ⟨.debug, message⟩

/-- A step that users may want to see. -/
def info (message : String) : Event := ⟨.info, message⟩

/-- Something that may need attention. -/
def warn (message : String) : Event := ⟨.warn, message⟩

end Event

end ScriptLoader
