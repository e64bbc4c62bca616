/-
The days and the months of a period.  An instant lies on a day as numbers tell
(`Instant.le_dayNumber`, `Instant.dayNumber_lt`), so that a period meets the days between two
numbers and the months between two indices.  Counting up from the first of them, one after the
other, comes to just these (`Period.months_eq`, `Period.days_eq`); but the last day of the calendar
is not listed, as no other one follows it (`Period.mem_days`).
-/
import Scrollback.Proofs.Time.Calendar

namespace Scrollback

/-! ### Numbers in order -/

theorem range_of_le {m n : Int} (h : n ≤ m) : Int.range m n = [] := by
  rw [Int.range, Int.toNat_of_nonpos (by omega)]
  rfl

theorem range_of_lt {m n : Int} (h : m < n) : Int.range m n = m :: Int.range (m + 1) n := by
  obtain ⟨k, hk⟩ := Int.eq_ofNat_of_zero_le (by omega : 0 ≤ n - (m + 1))
  have size : (n - m).toNat = k + 1 := by omega
  have rest : (n - (m + 1)).toNat = k := by omega
  rw [Int.range, Int.range, size, rest, List.range_succ_eq_map, List.map_cons, List.map_map]
  congr 1
  · omega
  · refine List.map_congr_left fun i _ => ?_
    simp only [Function.comp_apply, Nat.succ_eq_add_one]
    omega

theorem pairwise_range (m n : Int) : (Int.range m n).Pairwise (· < ·) := by
  rw [Int.range, List.pairwise_map]
  exact List.pairwise_lt_range.imp fun h => by omega

theorem length_range (m n : Int) : (Int.range m n).length = (n - m).toNat := by
  rw [Int.range, List.length_map, List.length_range]

/-! ### Instants and days -/

namespace Instant

variable {t : Instant} {n : Int}

/-- The instants from the start of a day on are those of this day and later ones. -/
theorem le_dayNumber : ofMillis (n * Period.dayMillis) ≤ t ↔ n ≤ t.dayNumber := by
  show Instant.le _ _ ↔ _
  simp only [Instant.le, ofMillis, dayNumber, Period.dayMillis]
  omega

/-- The instants before the start of a day are those of earlier days, leap seconds included. -/
theorem dayNumber_lt : t < ofMillis (n * Period.dayMillis) ↔ t.dayNumber < n := by
  show Instant.lt _ _ ↔ _
  simp only [Instant.lt, ofMillis, dayNumber, Period.dayMillis]
  omega

end Instant

namespace Period

variable {p : Period} {t : Instant} {n : Int}

theorem contains_iff :
    p.contains t = true ↔ Instant.ofMillis p.start ≤ t ∧ t < Instant.ofMillis p.stop := by
  simp [contains]

theorem dayNumber_of_contains (h : p.contains t = true) :
    p.start < p.stop ∧ p.start / dayMillis ≤ t.dayNumber ∧
      t.dayNumber ≤ (p.stop - 1) / dayMillis := by
  obtain ⟨low, high⟩ := contains_iff.mp h
  replace low : Instant.le _ _ := low
  replace high : Instant.lt _ _ := high
  simp only [Instant.le, Instant.lt, Instant.ofMillis] at low high
  simp only [Instant.dayNumber, dayMillis]
  omega

/-- A period that is not empty has an instant on every day from its first to its last one. -/
theorem exists_contains (some : p.start < p.stop) (low : p.start / dayMillis ≤ n)
    (high : n ≤ (p.stop - 1) / dayMillis) : ∃ t, p.contains t = true ∧ t.dayNumber = n := by
  simp only [dayMillis] at low high
  refine ⟨Instant.ofMillis (max p.start (n * dayMillis)), contains_iff.mpr ⟨?_, ?_⟩, ?_⟩
  · show Instant.le _ _
    simp only [Instant.le, Instant.ofMillis, dayMillis]
    omega
  · show Instant.lt _ _
    simp only [Instant.lt, Instant.ofMillis, dayMillis]
    omega
  · simp only [Instant.ofMillis, Instant.dayNumber, dayMillis]
    omega

/-- The days that a period meets lie in the calendar. -/
theorem dayNumber_range (p : Period) (some : p.start < p.stop) :
    Date.firstDayNumber ≤ p.start / dayMillis ∧ p.start / dayMillis ≤ (p.stop - 1) / dayMillis ∧
      (p.stop - 1) / dayMillis ≤ Date.lastDayNumber := by
  have low := p.min_le_start
  have high := p.stop_le_max
  simp only [Instant.minMillis, Instant.maxMillis] at low high
  simp only [Date.firstDayNumber, Date.lastDayNumber, dayMillis]
  omega

theorem dayBounds?_of_lt (some : p.start < p.stop) :
    p.dayBounds? = .some (p.start / dayMillis, (p.stop - 1) / dayMillis) := by
  rw [dayBounds?, if_neg]
  simp only [isEmpty, beq_iff_eq]
  omega

theorem dayBounds?_of_eq (none : p.start = p.stop) : p.dayBounds? = .none := by
  rw [dayBounds?, if_pos]
  simpa [isEmpty] using none

/-! ### Days -/

/-- The period has an instant of this day. -/
def MeetsDay (p : Period) (d : Date) : Prop :=
  ∃ t, p.contains t = true ∧ t.date = d

theorem meetsDay_iff {d : Date} :
    p.MeetsDay d ↔ d.InYear ∧ p.start < p.stop ∧ p.start / dayMillis ≤ d.dayNumber ∧
      d.dayNumber ≤ (p.stop - 1) / dayMillis := by
  constructor
  · rintro ⟨t, inside, rfl⟩
    rw [Instant.date, Date.dayNumber_ofDayNumber]
    exact ⟨Date.inYear_ofDayNumber _, dayNumber_of_contains inside⟩
  · rintro ⟨inYear, some, low, high⟩
    obtain ⟨t, inside, number⟩ := exists_contains some low high
    exact ⟨t, inside, by rw [Instant.date, number, inYear.ofDayNumber_dayNumber]⟩

instance (p : Period) (d : Date) : Decidable (p.MeetsDay d) :=
  decidable_of_iff _ meetsDay_iff.symm

/-- From a day on, the days with the next numbers are listed; the last day of the calendar is
not. -/
theorem daysFrom_eq (d last : Date) (h : d.Exists) :
    daysFrom d last =
      (Int.range d.dayNumber (min (last.dayNumber + 1) Date.lastDayNumber)).map
        Date.ofDayNumber := by
  fun_induction daysFrom d last with
  | case1 d none =>
    rw [Date.next?_eq h] at none
    have : ¬d.dayNumber < Date.lastDayNumber := fun early => by simp [early] at none
    rw [range_of_le (by omega)]
    rfl
  | case2 d next following before ih =>
    rw [Date.next?_eq h] at following
    obtain ⟨early, rfl⟩ : d.dayNumber < Date.lastDayNumber ∧
      Date.ofDayNumber (d.dayNumber + 1) = next := by simpa using following
    obtain ⟨inYear, low, -⟩ := Date.exists_iff.mp h
    rw [ih (Date.exists_ofDayNumber.mpr (by omega)), Date.dayNumber_ofDayNumber,
      @range_of_lt d.dayNumber _ (by omega), List.map_cons, inYear.ofDayNumber_dayNumber]
  | case3 d next following after =>
    rw [range_of_le (by omega)]
    rfl

theorem days_eq (some : p.start < p.stop) :
    p.days = (Int.range (p.start / dayMillis)
      (min ((p.stop - 1) / dayMillis + 1) Date.lastDayNumber)).map Date.ofDayNumber := by
  obtain ⟨low, ordered, high⟩ := p.dayNumber_range some
  rw [days, dayBounds?_of_lt some]
  dsimp only
  rw [daysFrom_eq _ _ (Date.exists_ofDayNumber.mpr ⟨low, by omega⟩), Date.dayNumber_ofDayNumber,
    Date.dayNumber_ofDayNumber]

theorem days_of_eq (none : p.start = p.stop) : p.days = [] := by
  rw [days, dayBounds?_of_eq none]

/-- The days that a period meets are listed, but for the last one of the calendar. -/
theorem mem_days {d : Date} : d ∈ p.days ↔ p.MeetsDay d ∧ d ≠ .last := by
  rw [meetsDay_iff]
  rcases p.start_le_stop.eq_or_lt with none | some
  · rw [days_of_eq none]
    simp [none]
  · obtain ⟨low, ordered, high⟩ := p.dayNumber_range some
    rw [days_eq some, List.mem_map]
    constructor
    · rintro ⟨n, mem, rfl⟩
      rw [Int.mem_range_iff] at mem
      rw [Date.dayNumber_ofDayNumber]
      refine ⟨⟨Date.inYear_ofDayNumber n, some, by omega, by omega⟩, fun eq => ?_⟩
      have number := congrArg Date.dayNumber eq
      rw [Date.dayNumber_ofDayNumber, Date.dayNumber_last] at number
      omega
    · rintro ⟨⟨inYear, -, after, before⟩, other⟩
      have early : d.dayNumber ≠ Date.lastDayNumber := fun number =>
        other (inYear.dayNumber_inj Date.exists_last.inYear (number.trans Date.dayNumber_last.symm))
      exact ⟨d.dayNumber, Int.mem_range_iff.mpr (by omega), inYear.ofDayNumber_dayNumber⟩

theorem pairwise_days (p : Period) : p.days.Pairwise fun a b => a.dayNumber < b.dayNumber := by
  rcases p.start_le_stop.eq_or_lt with none | some
  · rw [days_of_eq none]
    exact .nil
  · rw [days_eq some, List.pairwise_map]
    simpa only [Date.dayNumber_ofDayNumber] using pairwise_range _ _

theorem nodup_days (p : Period) : p.days.Nodup :=
  p.pairwise_days.imp fun {_ _} lt eq => (eq ▸ lt).ne rfl

theorem exists_of_mem_days {d : Date} (h : d ∈ p.days) : d.Exists := by
  obtain ⟨inYear, some, after, before⟩ := meetsDay_iff.mp (mem_days.mp h).1
  obtain ⟨low, -, high⟩ := p.dayNumber_range some
  exact Date.exists_iff.mpr ⟨inYear, by omega, by omega⟩

/-- The last day of the calendar is counted if the period meets it, though it is not listed. -/
theorem dayCount_eq (p : Period) :
    p.dayCount = p.days.length + if p.MeetsDay .last then 1 else 0 := by
  have meets : p.MeetsDay .last ↔
      p.start < p.stop ∧ Date.lastDayNumber ≤ (p.stop - 1) / dayMillis := by
    rw [meetsDay_iff, Date.dayNumber_last]
    refine ⟨fun h => ⟨h.2.1, h.2.2.2⟩, fun h => ⟨Date.exists_last.inYear, h.1, ?_, h.2⟩⟩
    obtain ⟨-, ordered, high⟩ := p.dayNumber_range h.1
    omega
  rcases p.start_le_stop.eq_or_lt with none | some
  · rw [dayCount, dayBounds?_of_eq none, days_of_eq none, if_neg (by rw [meets]; omega)]
    rfl
  · obtain ⟨low, ordered, high⟩ := p.dayNumber_range some
    rw [dayCount, dayBounds?_of_lt some, days_eq some, List.length_map, length_range]
    dsimp only
    by_cases reached : Date.lastDayNumber ≤ (p.stop - 1) / dayMillis
    · rw [if_pos (meets.mpr ⟨some, reached⟩)]
      omega
    · rw [if_neg fun h => reached (meets.mp h).2]
      omega

end Period

/-! ### Months -/

namespace YearMonth

variable {m : YearMonth} {i : Int}

/-- The month is one of the twelve of a year of the calendar. -/
def Exists (m : YearMonth) : Prop :=
  m.firstDay.Exists

theorem exists_of {d : Date} (h : d.Exists) : (of d).Exists :=
  ⟨h.1, h.2.1, h.2.2.1, h.2.2.2.1, Nat.le_refl 1, daysInMonth_pos _ h.2.2.1 h.2.2.2.1⟩

theorem exists_ofIndex : (ofIndex i).Exists ↔ minYear * 12 ≤ i ∧ i ≤ lastIndex := by
  constructor
  · rintro ⟨low, high, -⟩
    simp only [firstDay, ofIndex] at low high
    simp only [lastIndex]
    omega
  · rintro ⟨low, high⟩
    simp only [lastIndex] at high
    refine ⟨?_, ?_, month_ofIndex_pos i, month_ofIndex_le i, Nat.le_refl 1,
      daysInMonth_pos _ (month_ofIndex_pos i) (month_ofIndex_le i)⟩
    · simp only [firstDay, ofIndex]
      omega
    · simp only [firstDay, ofIndex]
      omega

theorem Exists.ofIndex_index (h : m.Exists) : ofIndex m.index = m :=
  YearMonth.ofIndex_index h.2.2.1 h.2.2.2.1

theorem Exists.index_range (h : m.Exists) : minYear * 12 ≤ m.index ∧ m.index ≤ lastIndex := by
  rw [← exists_ofIndex, h.ofIndex_index]
  exact h

/-- Months of the calendar are in the order of their indices. -/
theorem order_eq {a b : YearMonth} (ha : a.Exists) (hb : b.Exists) :
    a.order b = compare a.index b.index := by
  obtain ⟨-, -, low, high, -⟩ := ha
  obtain ⟨-, -, low', high', -⟩ := hb
  simp only [firstDay] at low high low' high'
  have index_eq (m : YearMonth) : m.index = m.year * 12 + m.month - 1 := rfl
  rw [order]
  rcases lt_trichotomy a.year b.year with year | year | year
  · have := compare_lt_iff_lt.mpr (by rw [index_eq, index_eq]; omega : a.index < b.index)
    rw [compare_lt_iff_lt.mpr year, this]
    rfl
  · rw [compare_eq_iff_eq.mpr year, Ordering.then]
    rcases lt_trichotomy a.month b.month with month | month | month
    · rw [compare_lt_iff_lt.mpr month, compare_lt_iff_lt.mpr]
      rw [index_eq, index_eq]
      omega
    · rw [compare_eq_iff_eq.mpr month, compare_eq_iff_eq.mpr]
      rw [index_eq, index_eq]
      omega
    · rw [compare_gt_iff_gt.mpr month, compare_gt_iff_gt.mpr]
      rw [index_eq, index_eq]
      omega
  · have := compare_gt_iff_gt.mpr (by rw [index_eq, index_eq]; omega : a.index > b.index)
    rw [compare_gt_iff_gt.mpr year, this]
    rfl

theorem order_eq_lt_iff {a b : YearMonth} (ha : a.Exists) (hb : b.Exists) :
    a.order b = .lt ↔ a.index < b.index := by
  rw [order_eq ha hb, compare_lt_iff_lt]

theorem order_isLE_iff {a b : YearMonth} (ha : a.Exists) (hb : b.Exists) :
    (a.order b).isLE = true ↔ a.index ≤ b.index := by
  rw [order_eq ha hb, Ordering.isLE_iff_ne_gt, compare_gt_iff_gt, not_lt]

end YearMonth

namespace Period

variable {p : Period} {m : YearMonth}

/-- The period has an instant of this month. -/
def MeetsMonth (p : Period) (m : YearMonth) : Prop :=
  ∃ t, p.contains t = true ∧ YearMonth.of t.date = m

/-- From a month on, the months with the next indices are listed, the last one of the calendar
among them. -/
theorem monthsFrom_eq {last : YearMonth} (h : m.Exists) (hl : last.Exists) :
    monthsFrom m last = (Int.range m.index (last.index + 1)).map YearMonth.ofIndex := by
  fun_induction monthsFrom m last with
  | case1 m before none =>
    rw [YearMonth.order_isLE_iff h hl] at before
    have := YearMonth.next?_eq_none.mp none
    have := hl.index_range
    rw [range_of_lt (by omega), range_of_le (by omega), List.map_cons, h.ofIndex_index]
    rfl
  | case2 m before next following ih =>
    rw [YearMonth.order_isLE_iff h hl] at before
    obtain ⟨early, rfl⟩ := YearMonth.next?_eq_some.mp following
    have range := h.index_range
    rw [ih (YearMonth.exists_ofIndex.mpr (by omega)), YearMonth.index_ofIndex,
      @range_of_lt m.index _ (by omega), List.map_cons, h.ofIndex_index]
  | case3 m after =>
    rw [YearMonth.order_isLE_iff h hl] at after
    rw [range_of_le (by omega)]
    rfl

/-- The month of a day, by its number. -/
def monthIndex (n : Int) : Int :=
  (YearMonth.of (Date.ofDayNumber n)).index

theorem le_monthIndex {i n : Int} : i ≤ monthIndex n ↔ YearMonth.firstNumber i ≤ n := by
  rw [monthIndex, YearMonth.le_index_iff (Date.inYear_ofDayNumber n), Date.dayNumber_ofDayNumber]

theorem monthIndex_mono {n n' : Int} (h : n ≤ n') : monthIndex n ≤ monthIndex n' := by
  rw [le_monthIndex]
  exact (le_monthIndex.mp le_rfl).trans h

theorem months_eq (some : p.start < p.stop) :
    p.months = (Int.range (monthIndex (p.start / dayMillis))
      (monthIndex ((p.stop - 1) / dayMillis) + 1)).map YearMonth.ofIndex := by
  obtain ⟨low, ordered, high⟩ := p.dayNumber_range some
  rw [months, monthBounds?, dayBounds?_of_lt some]
  exact monthsFrom_eq (YearMonth.exists_of (Date.exists_ofDayNumber.mpr ⟨low, by omega⟩))
    (YearMonth.exists_of (Date.exists_ofDayNumber.mpr ⟨by omega, high⟩))

theorem months_of_eq (none : p.start = p.stop) : p.months = [] := by
  rw [months, monthBounds?, dayBounds?_of_eq none]
  rfl

theorem meetsMonth_iff :
    p.MeetsMonth m ↔ ∃ d, p.MeetsDay d ∧ YearMonth.of d = m :=
  ⟨fun ⟨t, inside, month⟩ => ⟨t.date, ⟨t, inside, rfl⟩, month⟩,
    fun ⟨_, ⟨t, inside, day⟩, month⟩ => ⟨t, inside, day ▸ month⟩⟩

/-- The months that a period meets are listed. -/
theorem mem_months : m ∈ p.months ↔ p.MeetsMonth m := by
  rcases p.start_le_stop.eq_or_lt with none | some
  · rw [months_of_eq none, meetsMonth_iff]
    simp [meetsDay_iff, none]
  · obtain ⟨low, ordered, high⟩ := p.dayNumber_range some
    rw [months_eq some, List.mem_map]
    constructor
    · rintro ⟨i, mem, rfl⟩
      rw [Int.mem_range_iff, Int.lt_add_one_iff, le_monthIndex] at mem
      -- the first day of the month, or of the period if that is later
      obtain ⟨t, inside, day⟩ := @exists_contains p (max (p.start / dayMillis)
        (YearMonth.firstNumber i)) some (le_max_left ..) (max_le ordered mem.2)
      refine ⟨t, inside, ?_⟩
      have month : monthIndex t.dayNumber = i := by
        refine le_antisymm (Int.lt_add_one_iff.mp (Int.not_le.mp fun late => ?_)) ?_
        · rw [le_monthIndex, day, le_max_iff, ← le_monthIndex] at late
          rcases late with late | late
          · omega
          · exact absurd (YearMonth.firstNumber_strictMono.le_iff_le.mp late) (by omega)
        · rw [le_monthIndex, day]
          exact le_max_right ..
      rw [← month]
      exact (YearMonth.ofIndex_index (Date.inYear_ofDayNumber _).month_pos
        (Date.inYear_ofDayNumber _).month_le).symm
    · rintro ⟨t, inside, rfl⟩
      obtain ⟨-, after, before⟩ := dayNumber_of_contains inside
      exact ⟨monthIndex t.dayNumber, Int.mem_range_iff.mpr
        ⟨monthIndex_mono after, Int.lt_add_one_iff.mpr (monthIndex_mono before)⟩,
        YearMonth.ofIndex_index (Date.inYear_ofDayNumber _).month_pos
          (Date.inYear_ofDayNumber _).month_le⟩

theorem exists_of_mem_months (h : m ∈ p.months) : m.Exists := by
  obtain ⟨t, inside, rfl⟩ := mem_months.mp h
  obtain ⟨some, after, before⟩ := dayNumber_of_contains inside
  obtain ⟨low, -, high⟩ := p.dayNumber_range some
  exact YearMonth.exists_of (Date.exists_ofDayNumber.mpr ⟨by omega, by omega⟩)

theorem pairwise_months (p : Period) : p.months.Pairwise fun a b => a.order b = .lt := by
  have increase : p.months.Pairwise fun a b => a.index < b.index := by
    rcases p.start_le_stop.eq_or_lt with none | some
    · rw [months_of_eq none]
      exact .nil
    · rw [months_eq some, List.pairwise_map]
      simpa only [YearMonth.index_ofIndex] using pairwise_range _ _
  refine increase.imp_of_mem fun ha hb lt => ?_
  rwa [YearMonth.order_eq_lt_iff (exists_of_mem_months ha) (exists_of_mem_months hb)]

theorem nodup_months (p : Period) : p.months.Nodup :=
  p.pairwise_months.imp fun {a b} lt eq => by
    subst eq
    simp [YearMonth.order] at lt

theorem monthCount_eq (p : Period) : p.monthCount = p.months.length := by
  rcases p.start_le_stop.eq_or_lt with none | some
  · rw [monthCount, monthBounds?, dayBounds?_of_eq none, months_of_eq none]
    rfl
  · rw [monthCount, monthBounds?, dayBounds?_of_lt some, months_eq some, List.length_map,
      length_range]
    dsimp only [Option.map_some]
    rw [monthIndex, monthIndex]
    omega

/-! ### The periods of days and months -/

/-- Before the end of time, a stretch of days has the instants of these days.  The last day of the
calendar ends with its last instant, and not where a next one would begin. -/
theorem contains_within {a b stop : Int} {t : Instant} (low : Date.firstDayNumber ≤ a)
    (ordered : a < b) (high : b ≤ Date.lastDayNumber + 1)
    (ends : min stop Instant.maxMillis = min (b * dayMillis) Instant.maxMillis)
    (before : t < Instant.ofMillis Instant.maxMillis) :
    (within (a * dayMillis) stop).contains t = true ↔ a ≤ t.dayNumber ∧ t.dayNumber < b := by
  have start : (within (a * dayMillis) stop).start = a * dayMillis := by
    simp only [Date.firstDayNumber, Date.lastDayNumber] at low high
    simp only [within, Instant.minMillis, Instant.maxMillis, dayMillis]
    omega
  have ends : (within (a * dayMillis) stop).stop = min (b * dayMillis) Instant.maxMillis := by
    show max (within (a * dayMillis) stop).start _ = _
    rw [start, ends]
    simp only [Date.lastDayNumber] at high
    simp only [Instant.maxMillis, dayMillis]
    omega
  rw [contains_iff, start, ends, Instant.le_dayNumber]
  refine and_congr_right fun _ => ?_
  rcases Int.lt_or_le Date.lastDayNumber b with last | early
  · -- the instants of the last day are those before the end of time
    have stop_eq : min (b * dayMillis) Instant.maxMillis = Instant.maxMillis := by
      simp only [Date.lastDayNumber] at last high
      simp only [Instant.maxMillis, dayMillis]
      omega
    rw [stop_eq]
    refine iff_of_true before ?_
    replace before : Instant.lt _ _ := before
    simp only [Date.lastDayNumber] at last
    simp only [Instant.lt, Instant.ofMillis, Instant.maxMillis] at before
    simp only [Instant.dayNumber]
    omega
  · have stop_eq : min (b * dayMillis) Instant.maxMillis = b * dayMillis := by
      simp only [Date.lastDayNumber] at early
      simp only [Instant.maxMillis, dayMillis]
      omega
    rw [stop_eq, Instant.dayNumber_lt]

/-- Before the end of time, the period of a day has the instants of that day. -/
theorem contains_day {d : Date} {t : Instant} (h : d.Exists)
    (before : t < Instant.ofMillis Instant.maxMillis) :
    (day d).contains t = true ↔ t.date = d := by
  obtain ⟨inYear, low, high⟩ := Date.exists_iff.mp h
  rw [day, contains_within low (Int.lt_succ _) (by omega) rfl before]
  constructor
  · intro number
    rw [Instant.date, show t.dayNumber = d.dayNumber by omega, inYear.ofDayNumber_dayNumber]
  · rintro rfl
    rw [Instant.date, Date.dayNumber_ofDayNumber]
    omega

/-- Before the end of time, the period of a month has the instants of that month. -/
theorem contains_month {t : Instant} (h : m.Exists)
    (before : t < Instant.ofMillis Instant.maxMillis) :
    (month m).contains t = true ↔ YearMonth.of t.date = m := by
  have first : m.firstDay.dayNumber = YearMonth.firstNumber m.index := by
    rw [YearMonth.firstNumber, h.ofIndex_index]
  obtain ⟨-, low, -⟩ := Date.exists_iff.mp h
  have last := h.index_range.2
  have beyond : YearMonth.firstNumber (YearMonth.lastIndex + 1) = Date.lastDayNumber + 1 := by
    decide
  have high : YearMonth.firstNumber (m.index + 1) ≤ Date.lastDayNumber + 1 := by
    rw [← beyond]
    exact YearMonth.firstNumber_strictMono.monotone (by omega)
  obtain ⟨stop, month_eq, ends⟩ : ∃ stop,
      month m = within (YearMonth.firstNumber m.index * dayMillis) stop ∧
      min stop Instant.maxMillis =
        min (YearMonth.firstNumber (m.index + 1) * dayMillis) Instant.maxMillis := by
    rw [month, first]
    refine ⟨_, rfl, ?_⟩
    split
    · next n following =>
      obtain ⟨-, rfl⟩ := YearMonth.next?_eq_some.mp following
      rfl
    · next none =>
      have index : m.index = YearMonth.lastIndex :=
        le_antisymm last (YearMonth.next?_eq_none.mp none)
      rw [index, beyond]
      decide
  rw [month_eq, contains_within (first ▸ low)
    (YearMonth.firstNumber_strictMono (Int.lt_succ m.index)) high ends before, ← le_monthIndex,
    ← Int.not_le, ← le_monthIndex]
  constructor
  · intro index
    rw [← h.ofIndex_index, ← show monthIndex t.dayNumber = m.index by omega]
    exact (YearMonth.ofIndex_index (Date.inYear_ofDayNumber _).month_pos
      (Date.inYear_ofDayNumber _).month_le).symm
  · rintro rfl
    show (YearMonth.of t.date).index ≤ (YearMonth.of t.date).index ∧ _
    rw [monthIndex, Instant.date]
    omega

end Period

end Scrollback
