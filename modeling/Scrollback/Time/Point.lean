/-
Time points as people write them: a year, or a year and up to five further fields, from the month
down to the second, joined by hyphens.  Fields that are left out take their first value.
-/
import Scrollback.Text.Blank
import Scrollback.Time.Period

namespace Scrollback.TimePoint

/-- The bound of a field: it is read as a 32-bit unsigned word. -/
def fieldBound : Nat := UInt32.size

/-- Read the fields of a text, one to six of them. -/
def fields? (cs : List Char) : Option (List Nat) :=
  let parts := cs.splitOn '-'
  if parts.length ≤ 6 then parts.mapM (wordOfDigits fieldBound) else none

/-- The instant that up to six fields name, the rest being filled in. -/
def instant? (fields : List Nat) : Option Instant :=
  let field (i default : Nat) : Nat := fields.getD i default
  let hour := field 3 0
  let minute := field 4 0
  let second := field 5 0
  if hour < 24 ∧ minute < 60 ∧ second < 60 then
    (Date.make? (field 0 0) (field 1 1) (field 2 1)).map fun d => Instant.ofClock d hour minute second
  else none

/-- Read a time point; white space around it does not matter. -/
def parse (text : String) : Except TimeError Instant :=
  match fields? (trim text.toList) >>= instant? with
  | some t => .ok t
  | none => .error (.invalidPoint text)

end Scrollback.TimePoint

namespace Scrollback

/-- Read a period from its two bounds, the start first. -/
def Period.parse (start stop : String) : Except TimeError Period := do
  let a ← TimePoint.parse start
  let b ← TimePoint.parse stop
  Period.make? a.epochMillis b.epochMillis

end Scrollback
