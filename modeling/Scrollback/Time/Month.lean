/-
Calendar months, in the order of the calendar.
-/
import Scrollback.Time.Date

namespace Scrollback

/-- A month of a year, numbered from 1. -/
structure YearMonth where
  year : Int
  month : Nat
  deriving DecidableEq, Repr

/-- The English name of a month, numbered from 1. -/
def monthName : Nat → String
  | 1 => "January"
  | 2 => "February"
  | 3 => "March"
  | 4 => "April"
  | 5 => "May"
  | 6 => "June"
  | 7 => "July"
  | 8 => "August"
  | 9 => "September"
  | 10 => "October"
  | 11 => "November"
  | 12 => "December"
  | _ => "Unknown"

namespace YearMonth

/-- The month of a year, if the calendar has it. -/
def make? (year : Int) (month : Nat) : Option YearMonth :=
  (Date.make? year month 1).map fun d => ⟨d.year, d.month⟩

/-- The month that a day lies in. -/
def of (d : Date) : YearMonth :=
  ⟨d.year, d.month⟩

/-- The first day of a month. -/
def firstDay (m : YearMonth) : Date :=
  ⟨m.year, m.month, 1⟩

/-- How many months lie between January of year 0 and this month. -/
def index (m : YearMonth) : Int :=
  m.year * 12 + m.month - 1

/-- The month with a given index. -/
def ofIndex (i : Int) : YearMonth :=
  ⟨i / 12, (i % 12).toNat + 1⟩

@[simp] theorem index_ofIndex (i : Int) : (ofIndex i).index = i := by
  simp only [index, ofIndex]
  omega

/-- The index of the last month of the calendar. -/
def lastIndex : Int := maxYear * 12 + 11

/-- The following month; the last month of the calendar has none. -/
def next? (m : YearMonth) : Option YearMonth :=
  if m.index < lastIndex then some (ofIndex (m.index + 1)) else none

theorem next?_eq_some {m next : YearMonth} :
    m.next? = some next ↔ m.index < lastIndex ∧ ofIndex (m.index + 1) = next := by
  unfold next?
  split <;> simp [*]

theorem next?_eq_none {m : YearMonth} : m.next? = none ↔ lastIndex ≤ m.index := by
  unfold next?
  split <;> simp <;> omega

theorem countdown_next? {m next : YearMonth} (h : m.next? = some next) :
    (lastIndex - next.index).toNat < (lastIndex - m.index).toNat := by
  obtain ⟨before, rfl⟩ := next?_eq_some.mp h
  rw [index_ofIndex]
  omega

/-- Months compare by their year, then by their number. -/
def order (a b : YearMonth) : Ordering :=
  (compare a.year b.year).then (compare a.month b.month)

/-- The English name of the month. -/
def name (m : YearMonth) : String :=
  monthName m.month

end YearMonth

end Scrollback
