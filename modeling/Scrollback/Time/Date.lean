/-
The proleptic Gregorian calendar.  A `Date` is a day of a year of the calendar; `Date.dayNumber`
counts days from 1970-01-01, and `Date.ofDayNumber` finds the date of a number by taking off whole
cycles of 400, 100, 4 and 1 years.

The calendar reaches from 1 January of `minYear` to 31 December of `maxYear`.
-/
import Scrollback.Text.Decimal
import Scrollback.Total

namespace Scrollback

/-- The first and the last year of the calendar. -/
def minYear : Int := -262143

def maxYear : Int := 262142

/-- Every fourth year is a leap year, but of the hundredth ones only every fourth. -/
def isLeap (year : Int) : Bool :=
  year % 4 == 0 && (year % 100 != 0 || year % 400 == 0)

/-- The lengths of the months of a year. -/
def monthLengths (leap : Bool) : List Nat :=
  [31, if leap then 29 else 28, 31, 30, 31, 30, 31, 31, 30, 31, 30, 31]

/-- The length of a month, numbered from 1; zero where there is no such month. -/
def daysInMonth (year : Int) (month : Nat) : Nat :=
  if month = 0 then 0 else (monthLengths (isLeap year)).getD (month - 1) 0

theorem daysInMonth_le (year : Int) (month : Nat) : daysInMonth year month ≤ 31 := by
  have table : ∀ leap, ∀ k < 12, (monthLengths leap).getD k 0 ≤ 31 := by decide
  unfold daysInMonth
  split
  · exact Nat.zero_le _
  · by_cases h : month - 1 < 12
    · exact table _ _ h
    · have beyond : (monthLengths (isLeap year)).length ≤ month - 1 := Nat.le_of_not_lt h
      rw [List.getD_eq_getElem?_getD, List.getElem?_eq_none beyond]
      exact Nat.zero_le _

/-- How many days of a year come before a month, numbered from 1. -/
def daysBeforeMonth (year : Int) (month : Nat) : Nat :=
  total ((monthLengths (isLeap year)).take (month - 1))

/-- How many days lie between 1 January of year 1 and 1 January of a year. -/
def daysBeforeYear (year : Int) : Int :=
  let y := year - 1
  365 * y + y / 4 - y / 100 + y / 400

/-- The day number of 1 January of year 1. -/
def dayNumberOfYearOne : Int := -719162

/-- A day of the calendar; months and days count from 1. -/
structure Date where
  year : Int
  month : Nat
  day : Nat
  deriving DecidableEq, Repr

namespace Date

/-- The day exists, in a year of the calendar. -/
def Exists (d : Date) : Prop :=
  minYear ≤ d.year ∧ d.year ≤ maxYear ∧ 1 ≤ d.month ∧ d.month ≤ 12 ∧
    1 ≤ d.day ∧ d.day ≤ daysInMonth d.year d.month

instance (d : Date) : Decidable d.Exists :=
  inferInstanceAs (Decidable (_ ∧ _))

/-- The date of a year, month and day, if there is one. -/
def make? (year : Int) (month day : Nat) : Option Date :=
  if Exists ⟨year, month, day⟩ then some ⟨year, month, day⟩ else none

/-- The following day, in the same month, the next one or the next year; the last day of the
calendar has none. -/
def next? (d : Date) : Option Date :=
  if d.day < daysInMonth d.year d.month then some { d with day := d.day + 1 }
  else if d.month < 12 then some ⟨d.year, d.month + 1, 1⟩
  else if d.year < maxYear then some ⟨d.year + 1, 1, 1⟩
  else none

/-- How many days would follow in the calendar if every month had 31. -/
def countdown (d : Date) : Nat :=
  (maxYear - d.year).toNat * 372 + (12 - d.month) * 31 + (31 - d.day)

theorem countdown_next? {d next : Date} (h : d.next? = some next) :
    next.countdown < d.countdown := by
  have short := daysInMonth_le d.year d.month
  unfold next? at h
  unfold countdown
  split at h
  · cases h
    dsimp only
    omega
  · split at h
    · cases h
      dsimp only
      omega
    · split at h
      · cases h
        dsimp only
        omega
      · cases h

/-- Days since 1970-01-01. -/
def dayNumber (d : Date) : Int :=
  dayNumberOfYearOne + daysBeforeYear d.year + daysBeforeMonth d.year d.month + d.day - 1

/-- Find the month, numbered from `month`, that the `day`-th day (from zero) after its start falls
into, when the months from there on have the given lengths. -/
def locate (month day : Nat) : List Nat → Nat × Nat
  | [] => (month, day + 1)
  | length :: rest =>
    if day < length then (month, day + 1) else locate (month + 1) (day - length) rest

/-- The date of a day number. -/
def ofDayNumber (n : Int) : Date :=
  let days := n - dayNumberOfYearOne
  let rest400 := days % 146097
  let centuries := min (rest400 / 36524) 3
  let rest100 := rest400 - 36524 * centuries
  let rest4 := rest100 % 1461
  let years := min (rest4 / 365) 3
  let year := 400 * (days / 146097) + 100 * centuries + 4 * (rest100 / 1461) + years + 1
  let found := locate 1 (rest4 - 365 * years).toNat (monthLengths (isLeap year))
  ⟨year, found.1, found.2⟩

/-- The day numbers of the first and the last day of the calendar. -/
def firstDayNumber : Int := -96465292

def lastDayNumber : Int := 95026236

/-- Year text: four digits, or a sign and at least four where four do not do. -/
def yearText (year : Int) : List Char :=
  if 0 ≤ year ∧ year ≤ 9999 then padded 4 year.toNat
  else (if year < 0 then '-' else '+') :: padded 4 year.natAbs

/-- `YYYY-MM-DD`. -/
def text (d : Date) : List Char :=
  yearText d.year ++ '-' :: padded 2 d.month ++ '-' :: padded 2 d.day

end Date

end Scrollback
