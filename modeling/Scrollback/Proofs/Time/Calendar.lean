/-
The calendar counts days one by one.  Every day of a year has a number, and every number is that of
one day (`Date.dayNumber_ofDayNumber`, `Date.ofDayNumber_dayNumber`); the dates of the calendar are
those with numbers from the first to the last (`Date.exists_iff`), and the date that follows another
one has the next number (`Date.next?_eq`).  A day lies in a month if its number is not less than
that of the month's first day but less than that of the next month's (`YearMonth.le_index_iff`).
-/
import Mathlib
import Scrollback.Time.Period

namespace Scrollback

/-! ### Years in cycles -/

theorem daysBeforeYear_succ (year : Int) :
    daysBeforeYear (year + 1) = daysBeforeYear year + if isLeap year then 366 else 365 := by
  simp only [daysBeforeYear, isLeap, Bool.and_eq_true, Bool.or_eq_true, beq_iff_eq, bne_iff_ne]
  split <;> omega

theorem daysBeforeYear_mono {year later : Int} (h : year ≤ later) :
    daysBeforeYear year ≤ daysBeforeYear later := by
  rcases h.eq_or_lt with rfl | h
  · rfl
  · simp only [daysBeforeYear]
    omega

/-- Whole cycles of 400, 100, 4 and 1 years, as they are taken off a number of days. -/
structure Cycles (a c b y : Int) : Prop where
  centuries : 0 ≤ c ∧ c ≤ 3
  fours : 0 ≤ b ∧ b ≤ 24
  years : 0 ≤ y ∧ y ≤ 3

namespace Cycles

variable {a c b y : Int}

theorem daysBeforeYear_eq (h : Cycles a c b y) :
    daysBeforeYear (400 * a + 100 * c + 4 * b + y + 1) =
      146097 * a + 36524 * c + 1461 * b + 365 * y := by
  obtain ⟨hc, hb, hy⟩ := h
  have fours : (400 * a + 100 * c + 4 * b + y) / 4 = 100 * a + 25 * c + b := by omega
  have centuries : (400 * a + 100 * c + 4 * b + y) / 100 = 4 * a + c := by omega
  have wholes : (400 * a + 100 * c + 4 * b + y) / 400 = a := by omega
  simp only [daysBeforeYear, add_sub_cancel_right, fours, centuries, wholes]
  ring

/-- The last year of a cycle of four is a leap year, unless it ends a century that does not end a
cycle of four. -/
theorem isLeap_iff (h : Cycles a c b y) :
    isLeap (400 * a + 100 * c + 4 * b + y + 1) = true ↔ y = 3 ∧ (b = 24 → c = 3) := by
  obtain ⟨hc, hb, hy⟩ := h
  simp only [isLeap, Bool.and_eq_true, Bool.or_eq_true, beq_iff_eq, bne_iff_ne]
  omega

end Cycles

/-- The cycles that are taken off a number of days leave a day of a year, counted from zero. -/
theorem exists_cycles (n : Int) :
    ∃ a c b y, Cycles a c b y ∧ ∃ day : Nat,
      n - dayNumberOfYearOne = 146097 * a + 36524 * c + 1461 * b + 365 * y + day ∧
      (day < if y = 3 ∧ (b = 24 → c = 3) then 366 else 365) ∧
      Date.ofDayNumber n =
        let year := 400 * a + 100 * c + 4 * b + y + 1
        let found := Date.locate 1 day (monthLengths (isLeap year))
        ⟨year, found.1, found.2⟩ := by
  refine ⟨_, _, _, _, ⟨?_, ?_, ?_⟩, _, ?_, ?_, rfl⟩
  · omega
  · omega
  · omega
  · omega
  · split <;> omega

/-! ### Months of a year -/

theorem daysBeforeMonth_succ (year : Int) {month : Nat} (low : 1 ≤ month) (high : month ≤ 12) :
    daysBeforeMonth year (month + 1) = daysBeforeMonth year month + daysInMonth year month := by
  have table : ∀ leap, ∀ k < 12, total ((monthLengths leap).take (k + 1)) =
    total ((monthLengths leap).take k) + (monthLengths leap).getD k 0 := by decide
  obtain ⟨k, rfl⟩ := Nat.exists_eq_add_of_le' low
  exact table _ k (by omega)

theorem daysBeforeMonth_mono (year : Int) {month later : Nat} (h : month ≤ later)
    (high : later ≤ 13) : daysBeforeMonth year month ≤ daysBeforeMonth year later := by
  have table : ∀ leap, ∀ j < 13, ∀ i ≤ j,
    total ((monthLengths leap).take i) ≤ total ((monthLengths leap).take j) := by decide
  exact table _ _ (by omega) _ (by omega)

theorem total_monthLengths (leap : Bool) :
    total (monthLengths leap) = if leap then 366 else 365 := by
  cases leap <;> rfl

theorem daysBeforeMonth_end (year : Int) :
    daysBeforeMonth year 13 = if isLeap year then 366 else 365 :=
  total_monthLengths _

theorem daysInMonth_pos (year : Int) {month : Nat} (low : 1 ≤ month) (high : month ≤ 12) :
    0 < daysInMonth year month := by
  have table : ∀ leap, ∀ k < 12, 0 < (monthLengths leap).getD k 0 := by decide
  obtain ⟨k, rfl⟩ := Nat.exists_eq_add_of_le' low
  exact table _ k (by omega)

namespace Date

/-- A day is located in the month whose days come to more than the days before it. -/
theorem locate_spec {lengths : List Nat} {day : Nat} (h : day < total lengths) (month : Nat) :
    ∃ k < lengths.length, locate month day lengths =
        (month + k, day - total (lengths.take k) + 1) ∧
      total (lengths.take k) ≤ day ∧ day < total (lengths.take (k + 1)) := by
  induction lengths generalizing month day with
  | nil => exact absurd h (Nat.not_lt_zero _)
  | cons length rest ih =>
    rw [total_cons] at h
    rw [locate]
    split
    · next within => exact ⟨0, by simp, by simp, by simp, by simpa⟩
    · next beyond =>
      obtain ⟨k, hk, found, low, high⟩ := @ih (day - length) (by omega) (month + 1)
      refine ⟨k + 1, by simpa using hk, ?_, ?_, ?_⟩
      · rw [found, List.take_succ_cons, total_cons]
        congr 1 <;> omega
      · rw [List.take_succ_cons, total_cons]
        omega
      · rw [List.take_succ_cons, total_cons]
        omega

/-! ### Days and their numbers -/

/-- The year of the date has this day. -/
structure InYear (d : Date) : Prop where
  month_pos : 1 ≤ d.month
  month_le : d.month ≤ 12
  day_pos : 1 ≤ d.day
  day_le : d.day ≤ daysInMonth d.year d.month

theorem inYear_iff {d : Date} :
    d.InYear ↔ 1 ≤ d.month ∧ d.month ≤ 12 ∧ 1 ≤ d.day ∧ d.day ≤ daysInMonth d.year d.month :=
  ⟨fun h => ⟨h.1, h.2, h.3, h.4⟩, fun h => ⟨h.1, h.2.1, h.2.2.1, h.2.2.2⟩⟩

instance (d : Date) : Decidable d.InYear :=
  decidable_of_iff _ inYear_iff.symm

theorem Exists.inYear {d : Date} (h : d.Exists) : d.InYear :=
  ⟨h.2.2.1, h.2.2.2.1, h.2.2.2.2.1, h.2.2.2.2.2⟩

/-- The number of a day tells its month, and within the year its number is less than the year has
days. -/
theorem InYear.number_bounds {d : Date} (h : d.InYear) :
    daysBeforeMonth d.year d.month < daysBeforeMonth d.year d.month + d.day ∧
      daysBeforeMonth d.year d.month + d.day ≤ daysBeforeMonth d.year (d.month + 1) := by
  have := h.day_pos
  have := h.day_le
  rw [daysBeforeMonth_succ d.year h.month_pos h.month_le]
  omega

theorem InYear.dayNumber_bounds {d : Date} (h : d.InYear) :
    daysBeforeYear d.year ≤ d.dayNumber - dayNumberOfYearOne ∧
      d.dayNumber - dayNumberOfYearOne < daysBeforeYear (d.year + 1) := by
  have bounds := h.number_bounds
  have all := daysBeforeMonth_mono d.year (Nat.succ_le_succ h.month_le) (Nat.le_refl _)
  rw [daysBeforeMonth_end] at all
  rw [daysBeforeYear_succ, dayNumber]
  split <;> simp_all <;> omega

/-- Days with one number are the same day. -/
theorem InYear.dayNumber_inj {d d' : Date} (h : d.InYear) (h' : d'.InYear)
    (same : d.dayNumber = d'.dayNumber) : d = d' := by
  have year : d.year = d'.year := by
    have bounds := h.dayNumber_bounds
    have bounds' := h'.dayNumber_bounds
    rcases lt_trichotomy d.year d'.year with lt | eq | lt
    · have := daysBeforeYear_mono (Int.add_one_le_of_lt lt)
      omega
    · exact eq
    · have := daysBeforeYear_mono (Int.add_one_le_of_lt lt)
      omega
  have bounds := h.number_bounds
  have bounds' := h'.number_bounds
  rw [dayNumber, dayNumber, year] at same
  rw [year] at bounds
  have month : d.month = d'.month := by
    rcases lt_trichotomy d.month d'.month with lt | eq | lt
    · have := daysBeforeMonth_mono d'.year (Nat.succ_le_of_lt lt)
        (h'.month_le.trans (by omega))
      simp only [Nat.succ_eq_add_one] at this
      omega
    · exact eq
    · have := daysBeforeMonth_mono d'.year (Nat.succ_le_of_lt lt)
        (h.month_le.trans (by omega))
      simp only [Nat.succ_eq_add_one] at this
      omega
  rw [month] at same
  obtain ⟨_, _, _⟩ := d
  obtain ⟨_, _, _⟩ := d'
  simp only [Date.mk.injEq] at *
  omega

/-- The day of a number is one of its year, and has this number. -/
theorem ofDayNumber_spec (n : Int) : (ofDayNumber n).InYear ∧ (ofDayNumber n).dayNumber = n := by
  obtain ⟨a, c, b, y, cycles, day, days, short, date⟩ := exists_cycles n
  rw [← cycles.daysBeforeYear_eq] at days
  simp only [← cycles.isLeap_iff] at short
  generalize 400 * a + 100 * c + 4 * b + y + 1 = year at days short date
  obtain ⟨k, hk, found, low, high⟩ := locate_spec (short.trans_eq (total_monthLengths _).symm) 1
  rw [date]
  dsimp only
  rw [found]
  have month : k + 1 ≤ 12 := hk
  have before : daysBeforeMonth year (1 + k) = total ((monthLengths (isLeap year)).take k) := by
    rw [daysBeforeMonth, Nat.add_sub_cancel_left]
  have after : daysBeforeMonth year (1 + k + 1) =
      total ((monthLengths (isLeap year)).take (k + 1)) := by
    rw [daysBeforeMonth, Nat.add_sub_cancel, Nat.add_comm]
  rw [daysBeforeMonth_succ year (by omega) (by omega), before] at after
  constructor
  · constructor <;> dsimp only <;> omega
  · rw [dayNumber]
    dsimp only
    rw [before]
    omega

theorem inYear_ofDayNumber (n : Int) : (ofDayNumber n).InYear :=
  (ofDayNumber_spec n).1

@[simp] theorem dayNumber_ofDayNumber (n : Int) : (ofDayNumber n).dayNumber = n :=
  (ofDayNumber_spec n).2

theorem InYear.ofDayNumber_dayNumber {d : Date} (h : d.InYear) : ofDayNumber d.dayNumber = d :=
  (inYear_ofDayNumber _).dayNumber_inj h (dayNumber_ofDayNumber _)

/-- The calendar has the days whose numbers lie between those of its first and its last day. -/
theorem exists_iff {d : Date} :
    d.Exists ↔ d.InYear ∧ firstDayNumber ≤ d.dayNumber ∧ d.dayNumber ≤ lastDayNumber := by
  have first : daysBeforeYear minYear = firstDayNumber - dayNumberOfYearOne := by decide
  have last : daysBeforeYear (maxYear + 1) = lastDayNumber + 1 - dayNumberOfYearOne := by decide
  constructor
  · intro h
    have bounds := h.inYear.dayNumber_bounds
    have low := daysBeforeYear_mono h.1
    have high := daysBeforeYear_mono (Int.add_le_add_right h.2.1 1)
    exact ⟨h.inYear, by omega, by omega⟩
  · rintro ⟨h, low, high⟩
    have bounds := h.dayNumber_bounds
    refine ⟨?_, ?_, h.month_pos, h.month_le, h.day_pos, h.day_le⟩
    · by_contra early
      have := daysBeforeYear_mono (Int.add_one_le_of_lt (Int.lt_of_not_ge early))
      omega
    · by_contra late
      have := daysBeforeYear_mono (Int.add_one_le_of_lt (Int.lt_of_not_ge late))
      omega

theorem exists_ofDayNumber {n : Int} :
    (ofDayNumber n).Exists ↔ firstDayNumber ≤ n ∧ n ≤ lastDayNumber := by
  rw [exists_iff, dayNumber_ofDayNumber]
  exact and_iff_right (inYear_ofDayNumber n)

/-- The last day of the calendar. -/
def last : Date := ⟨maxYear, 12, 31⟩

theorem exists_last : last.Exists := by decide

theorem dayNumber_last : last.dayNumber = lastDayNumber := by decide

/-- The following day has the next number. -/
theorem next?_eq {d : Date} (h : d.Exists) :
    d.next? =
      if d.dayNumber < lastDayNumber then some (ofDayNumber (d.dayNumber + 1)) else none := by
  obtain ⟨inYear, -, range⟩ := exists_iff.mp h
  have follow : ∀ {next : Date}, next.Exists → next.dayNumber = d.dayNumber + 1 →
      some next =
        if d.dayNumber < lastDayNumber then some (ofDayNumber (d.dayNumber + 1)) else none := by
    intro next exist number
    obtain ⟨inYear, -, range⟩ := exists_iff.mp exist
    rw [if_pos (by omega), ← number, inYear.ofDayNumber_dayNumber]
  obtain ⟨hmin, hmax, hmonth, hmonth', hday, hlength⟩ := h
  unfold next?
  split
  · -- in the same month
    next within =>
    refine follow ⟨hmin, hmax, hmonth, hmonth', by dsimp only; omega, within⟩ ?_
    simp only [dayNumber]
    omega
  · next ended =>
    have last : d.day = daysInMonth d.year d.month := by omega
    split
    · -- in the next month
      next within =>
      refine follow ⟨hmin, hmax, by dsimp only; omega, within, Nat.le_refl 1,
        daysInMonth_pos d.year (by dsimp only; omega) within⟩ ?_
      simp only [dayNumber, daysBeforeMonth_succ d.year hmonth hmonth']
      omega
    · next ended' =>
      have month : d.month = 12 := by omega
      have before := daysBeforeMonth_succ d.year hmonth hmonth'
      rw [month, daysBeforeMonth_end] at before
      have number : d.dayNumber + 1 = dayNumberOfYearOne + daysBeforeYear (d.year + 1) := by
        rw [dayNumber, daysBeforeYear_succ, last, month]
        split <;> simp_all <;> omega
      split
      · -- in the next year
        next within =>
        refine follow ⟨by dsimp only; omega, within, Nat.le_refl 1, Nat.le_add_left 1 11,
          Nat.le_refl 1, daysInMonth_pos _ (Nat.le_refl 1) (Nat.le_add_left 1 11)⟩ ?_
        rw [number]
        simp only [dayNumber, daysBeforeMonth, Nat.sub_self, List.take_zero, total_nil]
        omega
      · next ended'' =>
        have year : d.year = maxYear := by omega
        have beyond : dayNumberOfYearOne + daysBeforeYear (maxYear + 1) = lastDayNumber + 1 := by
          decide
        rw [year, beyond] at number
        rw [if_neg (by omega)]

end Date

/-! ### Months and their days -/

namespace YearMonth

/-- The number of the first day of a month, which is given by its index. -/
def firstNumber (i : Int) : Int :=
  (ofIndex i).firstDay.dayNumber

theorem ofIndex_index {m : YearMonth} (low : 1 ≤ m.month) (high : m.month ≤ 12) :
    ofIndex m.index = m := by
  obtain ⟨year, month⟩ := m
  simp only [ofIndex, index, YearMonth.mk.injEq]
  dsimp only at low high
  omega

theorem month_ofIndex_pos (i : Int) : 1 ≤ (ofIndex i).month :=
  Nat.le_add_left ..

theorem month_ofIndex_le (i : Int) : (ofIndex i).month ≤ 12 := by
  simp only [ofIndex]
  omega

theorem firstNumber_succ (i : Int) :
    firstNumber (i + 1) = firstNumber i + daysInMonth (ofIndex i).year (ofIndex i).month := by
  simp only [firstNumber, firstDay, Date.dayNumber]
  have after := daysBeforeMonth_succ (ofIndex i).year (month_ofIndex_pos i) (month_ofIndex_le i)
  by_cases last : (ofIndex i).month = 12
  · -- January of the next year
    have next : ofIndex (i + 1) = ⟨(ofIndex i).year + 1, 1⟩ := by
      simp only [ofIndex, YearMonth.mk.injEq] at last ⊢
      omega
    rw [last, daysBeforeMonth_end] at after
    rw [next, last, daysBeforeYear_succ]
    simp only [daysBeforeMonth, Nat.sub_self, List.take_zero, total_nil] at after ⊢
    split <;> simp_all <;> omega
  · have next : ofIndex (i + 1) = ⟨(ofIndex i).year, (ofIndex i).month + 1⟩ := by
      simp only [ofIndex, YearMonth.mk.injEq] at last ⊢
      omega
    rw [next]
    dsimp only
    rw [after]
    omega

theorem firstNumber_strictMono : StrictMono firstNumber := by
  refine strictMono_int_of_lt_succ fun i => ?_
  have some := daysInMonth_pos (ofIndex i).year (month_ofIndex_pos i) (month_ofIndex_le i)
  rw [firstNumber_succ]
  omega

/-- A day lies in a month or later if it is not before the first day of the month. -/
theorem le_index_iff {d : Date} (h : d.InYear) {i : Int} :
    i ≤ (of d).index ↔ firstNumber i ≤ d.dayNumber := by
  have self : ofIndex (of d).index = of d := ofIndex_index h.month_pos h.month_le
  have low : firstNumber (of d).index ≤ d.dayNumber := by
    have := h.day_pos
    rw [firstNumber, self]
    simp only [of, firstDay, Date.dayNumber]
    omega
  have high : d.dayNumber < firstNumber ((of d).index + 1) := by
    have := h.day_le
    rw [firstNumber_succ, firstNumber, self]
    simp only [of, firstDay, Date.dayNumber]
    omega
  constructor
  · intro le
    exact (firstNumber_strictMono.monotone le).trans low
  · intro le
    exact Int.lt_add_one_iff.mp (firstNumber_strictMono.lt_iff_lt.mp (le.trans_lt high))

end YearMonth

end Scrollback
