/-
What can go wrong with times: a text that is no time point, a period that ends before it begins,
and a number of milliseconds beyond the calendar.
-/
import Scrollback.Text.Quoted

namespace Scrollback

/-- The causes of failure when times are read or made. -/
inductive TimeError where
  /-- The text is not a time point. -/
  | invalidPoint (text : String)
  /-- The period begins after it ends. -/
  | reversed
  /-- No instant of the calendar has this many milliseconds. -/
  | outOfRange (millis : Int)
  deriving DecidableEq, Repr

/-- The wording of a failure. -/
def TimeError.message : TimeError → String
  | .invalidPoint text => "invalid time point: " ++ quoted text
  | .reversed => "period begins after it ends"
  | .outOfRange millis => "timestamp out of range: " ++ signedDecimal millis

end Scrollback
