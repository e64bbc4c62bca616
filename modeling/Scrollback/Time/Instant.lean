/-
Instants of the calendar, to the millisecond, in universal time.

A leap second is an instant of its own: it shares the second it follows and has 1000 or more
milliseconds.  So it sorts after every other instant of that second and before the next second,
although `Instant.epochMillis` gives it the number of the next one.  Only numbers of milliseconds
are ever stored, and `Instant.ofMillis` never makes a leap second.
-/
import Scrollback.Time.Date
import Scrollback.Time.Error

namespace Scrollback

/-- An instant: whole seconds since 1970-01-01 00:00:00, and milliseconds, which reach 1000 only
in a leap second. -/
structure Instant where
  second : Int
  milli : Nat
  deriving DecidableEq, Repr

namespace Instant

/-- Earlier instants first; the leap second comes after the second it follows. -/
protected def le (a b : Instant) : Prop :=
  a.second < b.second ∨ a.second = b.second ∧ a.milli ≤ b.milli

protected def lt (a b : Instant) : Prop :=
  a.second < b.second ∨ a.second = b.second ∧ a.milli < b.milli

instance : LE Instant := ⟨Instant.le⟩

instance : LT Instant := ⟨Instant.lt⟩

instance (a b : Instant) : Decidable (a ≤ b) :=
  inferInstanceAs (Decidable (_ ∨ _))

instance (a b : Instant) : Decidable (a < b) :=
  inferInstanceAs (Decidable (_ ∨ _))

/-- Milliseconds since 1970-01-01 00:00:00; those of a leap second are also those of the second
after it. -/
def epochMillis (t : Instant) : Int :=
  t.second * 1000 + t.milli

/-- The instant of a number of milliseconds. -/
def ofMillis (millis : Int) : Instant :=
  ⟨millis / 1000, (millis % 1000).toNat⟩

/-- The numbers of milliseconds of the first and the last instant of the calendar. -/
def minMillis : Int := -8334601228800000

def maxMillis : Int := 8210266876799999

/-- The instant of a number of milliseconds, if the calendar has it. -/
def ofMillis? (millis : Int) : Except TimeError Instant :=
  if minMillis ≤ millis ∧ millis ≤ maxMillis then .ok (ofMillis millis)
  else .error (.outOfRange millis)

/-- The instant at a date and a time of the day; second 60 is the leap second. -/
def ofClock (date : Date) (hour minute second : Nat) : Instant :=
  let whole := date.dayNumber * 86400 + hour * 3600 + minute * 60
  if second = 60 then ⟨whole + 59, 1000⟩ else ⟨whole + second, 0⟩

/-- The number of the day that an instant falls on. -/
def dayNumber (t : Instant) : Int :=
  t.second / 86400

/-- The day that an instant falls on. -/
def date (t : Instant) : Date :=
  Date.ofDayNumber t.dayNumber

/-- `YYYY-MM-DD hh:mm:ss`; a leap second is written as second 60. -/
def text (t : Instant) : List Char :=
  let s := (t.second % 86400).toNat
  t.date.text ++ ' ' :: padded 2 (s / 3600) ++ ':' :: padded 2 (s / 60 % 60) ++
    ':' :: padded 2 (s % 60 + t.milli / 1000)

end Instant

end Scrollback
