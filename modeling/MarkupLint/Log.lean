/-!
Messages about the work that is done, apart from its results.
-/

namespace MarkupLint

/-- How important a message is. -/
inductive Level where
  | debug
  | info
  | warning
  | error
deriving DecidableEq, Repr

namespace Level

/-- The name of a level. -/
def name : Level → String
  | debug => "DEBUG"
  | info => "INFO"
  | warning => "WARNING"
  | error => "ERROR"

/-- The rank of a level. -/
def rank : Level → Nat
  | debug => 0
  | info => 1
  | warning => 2
  | error => 3

end Level

/-- A message. -/
structure LogEntry where
  /-- How important it is. -/
  level : Level
  /-- What it says. -/
  text : String
deriving DecidableEq, Repr

namespace LogEntry

/-- Whether a message is shown from the given level on. -/
def shownFrom (e : LogEntry) (level : Level) : Bool := level.rank ≤ e.level.rank

/-- A message as a line of the log. -/
def render (e : LogEntry) : String := s!"[{e.level.name}] {e.text}"

end LogEntry

end MarkupLint
