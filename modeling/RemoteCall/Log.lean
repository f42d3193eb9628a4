/-!
# Log lines

A log line is a level, a message and named fields in the order in which they were given.
-/

namespace RemoteCall

/-- How much a log line matters. -/
inductive Level
  | trace | debug | info | warn | error
  deriving DecidableEq, Repr

/-- The name of a level. -/
def Level.name : Level → String
  | trace => "TRACE"
  | debug => "DEBUG"
  | info => "INFO"
  | warn => "WARN"
  | error => "ERROR"

/-- One line of a log. -/
structure LogLine where
  level : Level
  message : String
  fields : List (String × String)
  deriving DecidableEq, Repr

/-- A log line as text. -/
def LogLine.render (line : LogLine) : String :=
  line.level.name ++ " " ++ line.message ++
    String.join (line.fields.map fun (name, value) => " " ++ name ++ "=" ++ value)

end RemoteCall
