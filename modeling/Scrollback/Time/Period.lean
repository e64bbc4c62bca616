/-
Half-open periods of time.  A `Period` is bounded by two instants of the calendar, given as
milliseconds, the first not after the second; it contains its start and not its end.

`Period.months` and `Period.days` list the calendar months and days that a period meets, and
`monthCount` and `dayCount` say how many there are.
-/
import Scrollback.Time.Instant
import Scrollback.Time.Month

namespace Scrollback

/-- A half-open period between two instants of the calendar. -/
structure Period where
  start : Int
  stop : Int
  start_le_stop : start ≤ stop
  min_le_start : Instant.minMillis ≤ start
  stop_le_max : stop ≤ Instant.maxMillis
  deriving DecidableEq, Hashable, Repr

namespace Period

/-- The period between two numbers of milliseconds.  The start is looked at first, then the end,
then their order. -/
def make? (start stop : Int) : Except TimeError Period :=
  if h₁ : ¬ (Instant.minMillis ≤ start ∧ start ≤ Instant.maxMillis) then
    .error (.outOfRange start)
  else if h₂ : ¬ (Instant.minMillis ≤ stop ∧ stop ≤ Instant.maxMillis) then
    .error (.outOfRange stop)
  else if h₃ : start ≤ stop then
    .ok ⟨start, stop, h₃, (Decidable.not_not.mp h₁).1, (Decidable.not_not.mp h₂).2⟩
  else .error .reversed

/-- The part of a stretch of time that the calendar covers. -/
def within (start stop : Int) : Period :=
  let low := max Instant.minMillis (min start Instant.maxMillis)
  ⟨low, max low (min stop Instant.maxMillis),
    Int.le_max_left .., Int.le_max_left ..,
    Int.max_le.mpr ⟨Int.max_le.mpr ⟨by decide, Int.min_le_right ..⟩, Int.min_le_right ..⟩⟩

/-- Milliseconds of a day. -/
def dayMillis : Int := 86400000

/-- A calendar day.  The last day of the calendar ends with its last instant. -/
def day (d : Date) : Period :=
  within (d.dayNumber * dayMillis) ((d.dayNumber + 1) * dayMillis)

/-- A calendar month.  The last month of the calendar ends with its last instant. -/
def month (m : YearMonth) : Period :=
  within (m.firstDay.dayNumber * dayMillis)
    (match m.next? with
    | some n => n.firstDay.dayNumber * dayMillis
    | none => Instant.maxMillis)

/-- The calendar month that an instant lies in. -/
def currentMonth (now : Instant) : Period :=
  month (YearMonth.of now.date)

/-- A period without any instant. -/
def isEmpty (p : Period) : Bool :=
  p.start == p.stop

/-- Whether an instant lies in the period; its start does, its end does not. -/
def contains (p : Period) (t : Instant) : Bool :=
  Instant.ofMillis p.start ≤ t && t < Instant.ofMillis p.stop

/-- The numbers of the first and the last day that the period meets, if it is not empty. -/
def dayBounds? (p : Period) : Option (Int × Int) :=
  if p.isEmpty then none else some (p.start / dayMillis, (p.stop - 1) / dayMillis)

/-- How many calendar days the period meets. -/
def dayCount (p : Period) : Nat :=
  match p.dayBounds? with
  | none => 0
  | some (first, last) => (last - first + 1).toNat

/-- The days from one on as far as another one.  A day is listed when another one follows it, so
the very last day of the calendar is not. -/
def daysFrom (d last : Date) : List Date :=
  match _h : d.next? with
  | none => []
  | some next => if d.dayNumber ≤ last.dayNumber then d :: daysFrom next last else []
termination_by d.countdown
decreasing_by exact Date.countdown_next? ‹_›

/-- The calendar days that the period meets, in order. -/
def days (p : Period) : List Date :=
  match p.dayBounds? with
  | none => []
  | some (first, last) => daysFrom (Date.ofDayNumber first) (Date.ofDayNumber last)

/-- The first and the last month that the period meets, if it is not empty. -/
def monthBounds? (p : Period) : Option (YearMonth × YearMonth) :=
  p.dayBounds?.map fun (first, last) =>
    (YearMonth.of (Date.ofDayNumber first), YearMonth.of (Date.ofDayNumber last))

/-- How many calendar months the period meets. -/
def monthCount (p : Period) : Nat :=
  match p.monthBounds? with
  | none => 0
  | some (first, last) => (last.index - first.index + 1).toNat

/-- The months from one on as far as another one, or as far as the calendar has any. -/
def monthsFrom (m last : YearMonth) : List YearMonth :=
  if (m.order last).isLE then
    match _h : m.next? with
    | none => [m]
    | some next => m :: monthsFrom next last
  else []
termination_by (YearMonth.lastIndex - m.index).toNat
decreasing_by exact YearMonth.countdown_next? ‹_›

/-- The calendar months that the period meets, in order. -/
def months (p : Period) : List YearMonth :=
  match p.monthBounds? with
  | none => []
  | some (first, last) => monthsFrom first last

/-- `[start, stop)` in calendar terms. -/
def text (p : Period) : String :=
  String.ofList ('[' :: (Instant.ofMillis p.start).text ++ [',', ' '] ++
    (Instant.ofMillis p.stop).text ++ [')'])

end Period

end Scrollback
