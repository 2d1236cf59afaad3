/-!
# Log events

What the library has to say about its own work, as data: a level, a message and named fields. How
and where an event is shown is left to whoever runs the library.
-/

namespace NodeCoverage

/-- How serious an event is. -/
inductive Level where
  | debug
  | info
  | warn
  | error
  deriving DecidableEq, Repr

/-- The name of a level. -/
def Level.name : Level → String
  | .debug => "DEBUG"
  | .info => "INFO"
  | .warn => "WARN"
  | .error => "ERROR"

/-- The value of an event's field. -/
inductive FieldValue where
  | integer (n : Int)
  | flag (b : Bool)
  | text (s : String)
  | real (x : Float)
  deriving Repr

/-- One log event. Fields keep the order in which they were given. -/
structure Event where
  level : Level
  message : String
  fields : List (String × FieldValue)
  deriving Repr

end NodeCoverage
