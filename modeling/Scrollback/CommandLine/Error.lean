/-
Why a command line is not run: it is at fault, or it only asks for help.
-/

namespace Scrollback

/-- The causes for which a command line is not run. -/
inductive UsageError where
  | helpAsked
  /-- There is nothing on the command line. -/
  | nothingAsked
  | missingCommand
  | unknownCommand
  | unknownArgument
  | missingArgument
  /-- Two arguments exclude one another, or one that stands once at most is repeated. -/
  | conflict
  /-- An option has no value, or an empty one where that is no value. -/
  | emptyValue
  /-- A value is not one that the option takes. -/
  | invalidValue
  | wrongCount
  /-- A flag has a value. -/
  | tooManyValues
  deriving DecidableEq, Repr

end Scrollback
