/-
What a log is the log of: a channel and a period, and one user or, with no name given, everybody.
-/
import Scrollback.Time.Period

namespace Scrollback

/-- Names one log. -/
structure LogId where
  channel : String
  period : Period
  user : String := ""
  deriving DecidableEq, Hashable, Repr

namespace LogId

/-- The log is of one user. -/
def isUserLog (id : LogId) : Bool :=
  id.user != ""

/-- How messages name the log. -/
def text (id : LogId) : String :=
  let whole := "#" ++ id.channel ++ " " ++ id.period.text
  if id.isUserLog then whole ++ " user=" ++ id.user else whole

end LogId

end Scrollback
