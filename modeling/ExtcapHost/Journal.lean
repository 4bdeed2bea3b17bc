/-
Module: ExtcapHost.Journal
Purpose: Messages to the operator.
Main exports:
  Level, Note
-/

namespace ExtcapHost

/-- How much a message matters. -/
inductive Level where
  | info
  | warning
  | error
deriving DecidableEq, Repr, Inhabited

/-- A message to the operator. -/
structure Note where
  level : Level
  text : String
deriving DecidableEq, Repr, Inhabited

end ExtcapHost
