/-!
# Log entries

* `LogEntry` : a level, a message and named fields as text; `debug`, `info`, `warn`.
-/

namespace Entitlement

inductive LogLevel where
  | debug
  | info
  | warn
  deriving DecidableEq, Repr

def LogLevel.text : LogLevel → String
  | debug => "DEBUG"
  | info => "INFO"
  | warn => "WARN"

structure LogEntry where
  level : LogLevel
  message : String
  fields : List (String × String)
  deriving DecidableEq, Repr

namespace LogEntry

def debug (message : String) (fields : List (String × String)) : LogEntry :=
  ⟨.debug, message, fields⟩

def info (message : String) (fields : List (String × String)) : LogEntry :=
  ⟨.info, message, fields⟩

def warn (message : String) (fields : List (String × String)) : LogEntry :=
  ⟨.warn, message, fields⟩

end LogEntry

end Entitlement
