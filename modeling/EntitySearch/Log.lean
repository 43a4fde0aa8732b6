/-!
# Log lines

What the library writes to its logs: lines with a level and the part of the library they come from.
-/

namespace EntitySearch

/-- The level of a log line. -/
inductive LogLevel where
  | debug
  | info
  | error
  deriving Repr, DecidableEq

/-- The part of the library a log line comes from. -/
inductive LogSource where
  | search
  | trigramProvider
  | providerTable
  | database
  deriving Repr, DecidableEq

/-- A log line. -/
structure LogLine where
  level : LogLevel
  source : LogSource
  text : String
  deriving Repr, DecidableEq

end EntitySearch
