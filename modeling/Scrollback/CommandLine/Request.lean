/-
The query that a command line asks for.  Without a period it is about the current month.
-/
import Scrollback.CommandLine.Invocation
import Scrollback.Query.Basic
import Scrollback.Text.Quoted
import Scrollback.Time.Point

namespace Scrollback

/-- Why there is no query for some arguments. -/
inductive RequestError where
  | invalidPattern (pattern : String)
  | invalidPeriod (start stop : String) (cause : TimeError)
  /-- A period is given by two values. -/
  | periodValues (count : Nat)
  deriving DecidableEq, Repr

/-- The wording of a failure. -/
def RequestError.message : RequestError → String
  | .invalidPattern pattern => "invalid regex " ++ quoted pattern
  | .invalidPeriod start stop _ => "invalid period " ++ start ++ " " ++ stop
  | .periodValues n => "--period takes two values, got " ++ decimal n

/-- What lies behind a failure. -/
def RequestError.cause? : RequestError → Option TimeError
  | .invalidPeriod _ _ cause => some cause
  | _ => none

namespace QueryArguments

/-- What is searched for. -/
def matcher (a : QueryArguments) : Except RequestError Matcher :=
  if a.regex then
    (Matcher.ofPattern .standard a.pattern a.caseless).mapError fun _ => .invalidPattern a.pattern
  else .ok (.ofText a.pattern a.caseless)

/-- Whose lines are searched. -/
def selection (a : QueryArguments) : Users :=
  if a.allUsers then .everyone else .listed a.users

/-- When the lines were written that are searched. -/
def timeSpan (a : QueryArguments) (now : Instant) : Except RequestError Period :=
  match a.period with
  | none => .ok (Period.currentMonth now)
  | some [start, stop] => (Period.parse start stop).mapError (.invalidPeriod start stop)
  | some values => .error (.periodValues values.length)

/-- The query for some arguments. -/
def toQuery (a : QueryArguments) (now : Instant) : Except RequestError Query := do
  let matcher ← a.matcher
  let period ← a.timeSpan now
  pure ⟨matcher, a.channels, a.selection, period, a.service⟩

end QueryArguments

end Scrollback
