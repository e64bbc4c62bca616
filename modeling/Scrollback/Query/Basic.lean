/-
Queries and their answers.  A query names a text or an expression, and the logs whose lines are
searched for it; from each log it takes a part, and the answer is made of the parts of all logs.

A query is refused if it would have to look at more than `Query.maxTargets` logs.
-/
import Scrollback.Batch
import Scrollback.Matcher
import Scrollback.Total

namespace Scrollback

/-- What to search for, and where. -/
structure Query where
  matcher : Matcher
  channels : List String
  users : Users
  period : Period
  service : Service

/-- The answer to a query. -/
inductive Answer where
  | count (n : Nat)
  /-- Where the matching lines were put. -/
  | found (location : String)
  | noMatch
  | failed (reason : String)
  deriving DecidableEq, Repr

/-- An answer as text. -/
def Answer.text : Answer → String
  | .count n => decimal n
  | .found location => location
  | .noMatch => "no match"
  | .failed reason => "error: " ++ reason

namespace Query

/-- The greatest number of logs that a query may look at. -/
def maxTargets : Nat := 10000

/-- How many logs a query would look at. -/
def targetCount (q : Query) : Nat :=
  Scrollback.targetCount q.channels q.users q.period

/-- The logs that a query looks at, unless there are too many. -/
def targets (q : Query) : Except String (List Target) :=
  if maxTargets < q.targetCount then
    .error ("query spans " ++ decimal q.targetCount ++ " logs, at most " ++ decimal maxTargets ++
      " allowed")
  else .ok (q.service.targets q.channels q.users q.period)

/-- The lines of a log that lie within the period. -/
def linesOf (q : Query) (log : Log) : List LineSpan :=
  log.lines.toList.filter fun l => q.period.contains l.time

/-- What a log adds to a count: the occurrences in its messages. -/
def countPart (q : Query) (log : Log) : Nat :=
  total ((q.linesOf log).map fun l => q.matcher.count (log.textOf l.message))

/-- What a log adds to the lines found: those whose messages match. -/
def linePart (q : Query) (log : Log) : List Line :=
  ((q.linesOf log).filter fun l => q.matcher.matchesText (log.textOf l.message)).map log.lineAt

end Query

end Scrollback
