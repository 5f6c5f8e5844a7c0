/-!
# The journal

What happens while queries are read and parsers are built is noted in a journal, entry by entry.
-/

namespace FilterQuery.Journal

/-- How much an entry matters. -/
inductive Level where
  | trace
  | debug
  | warn
deriving Repr, DecidableEq

/-- The name of a level. -/
def Level.name : Level → String
  | trace => "TRACE"
  | debug => "DEBUG"
  | warn => "WARN"

/-- A note about one thing that happened. -/
structure Entry where
  level : Level
  text : String
deriving Repr, DecidableEq

end FilterQuery.Journal
