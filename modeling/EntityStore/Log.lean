/-!
# Log events

What the library tells a log: a level, where it comes from, a message and named details. Events are
data; who runs a program decides what becomes of them.
-/

namespace EntityStore

inductive LogLevel where
  | debug
  | info
  | warn
  deriving DecidableEq, Repr

def LogLevel.name : LogLevel → String
  | debug => "DEBUG"
  | info => "INFO"
  | warn => "WARN"

structure LogEvent where
  level : LogLevel
  target : String
  message : String
  details : List (String × String) := []
  deriving DecidableEq, Repr

end EntityStore
