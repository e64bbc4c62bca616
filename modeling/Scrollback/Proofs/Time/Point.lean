/-
Time points as people write them.  A text is accepted just if it writes the fields of an existing
date and time, the ones that are left out being filled in (`TimePoint.parse_eq_ok`); the fields,
compared one after another, then tell which of two times is earlier (`Clock.instant_lt_iff`), because
in the calendar a day of a later month or year always has a greater number.

Main statement: `TimePoint.parse_exact`.
-/
import Scrollback.Proofs.Time.Written
import Scrollback.Time.Point

namespace Scrollback

/-! ### The order of days -/

/-- Of two days, the one whose year, month and day come first is the earlier one. -/
theorem Date.InYear.dayNumber_lt {d d' : Date} (h : d.InYear) (h' : d'.InYear)
    (lt : d.year < d'.year ∨ d.year = d'.year ∧ (d.month < d'.month ∨ d.month = d'.month ∧
      d.day < d'.day)) : d.dayNumber < d'.dayNumber := by
  rcases lt with year | ⟨year, month | ⟨month, day⟩⟩
  · -- both days are numbered within their years, and one year ends before the other begins
    have bounds := h.dayNumber_bounds
    have bounds' := h'.dayNumber_bounds
    have := daysBeforeYear_mono (Int.add_one_le_of_lt year)
    omega
  · -- and likewise with months
    have bounds := h.number_bounds
    have bounds' := h'.number_bounds
    have := daysBeforeMonth_mono d.year (show d.month + 1 ≤ d'.month from month)
      (Nat.le_succ_of_le h'.month_le)
    rw [← year] at bounds'
    rw [dayNumber, dayNumber, ← year]
    omega
  · rw [dayNumber, dayNumber, year, month]
    omega

/-! ### Dates with times of the day -/

/-- A date and a time of the day, by their numbers. -/
structure Clock where
  year : Nat
  month : Nat
  day : Nat
  hour : Nat
  minute : Nat
  second : Nat

namespace Clock

/-- The date of a clock. -/
def date (c : Clock) : Date :=
  ⟨c.year, c.month, c.day⟩

/-- The numbers from the year down to the second. -/
def fields (c : Clock) : List Nat :=
  [c.year, c.month, c.day, c.hour, c.minute, c.second]

/-- The calendar has the date, and the day has the time. -/
structure Exists (c : Clock) : Prop where
  date : c.date.Exists
  hour : c.hour < 24
  minute : c.minute < 60
  second : c.second ≤ 59

/-- The instant that a clock shows. -/
def instant (c : Clock) : Instant :=
  Instant.ofClock c.date c.hour c.minute c.second

variable {c c' : Clock}

/-- The seconds up to the instant of a clock. -/
def seconds (c : Clock) : Int :=
  c.date.dayNumber * 86400 + c.hour * 3600 + c.minute * 60 + c.second

theorem Exists.instant_eq (h : c.Exists) : c.instant = ⟨c.seconds, 0⟩ := by
  have second := h.second
  exact if_neg (by omega)

theorem Exists.instant_lt_iff_seconds (h : c.Exists) (h' : c'.Exists) :
    c.instant < c'.instant ↔ c.seconds < c'.seconds := by
  rw [h.instant_eq, h'.instant_eq]
  show _ ∨ _ ∧ 0 < 0 ↔ _
  simp

/-- Smaller numbers are those of an earlier day, or of an earlier time of the same day. -/
theorem fields_lt (lt : c.fields < c'.fields) :
    (c.date.year < c'.date.year ∨ c.date.year = c'.date.year ∧ (c.date.month < c'.date.month ∨
      c.date.month = c'.date.month ∧ c.date.day < c'.date.day)) ∨
    c.date = c'.date ∧ (c.hour < c'.hour ∨ c.hour = c'.hour ∧ (c.minute < c'.minute ∨
      c.minute = c'.minute ∧ c.second < c'.second)) := by
  simp only [fields, List.cons_lt_cons_iff, List.lt_irrefl, and_false, or_false] at lt
  simp only [date, Nat.cast_lt, Nat.cast_inj, Date.mk.injEq]
  tauto

/-- The clock that shows the smaller numbers is the earlier one. -/
theorem Exists.seconds_lt (h : c.Exists) (h' : c'.Exists) (lt : c.fields < c'.fields) :
    c.seconds < c'.seconds := by
  obtain ⟨exist, hour, minute, second⟩ := h
  obtain ⟨exist', hour', minute', second'⟩ := h'
  rw [seconds, seconds]
  rcases fields_lt lt with day | ⟨day, time⟩
  · -- a whole day is more than any time of the day
    have := exist.inYear.dayNumber_lt exist'.inYear day
    omega
  · rw [day]
    omega

theorem fields_inj (same : c.fields = c'.fields) : c = c' := by
  cases c
  cases c'
  simpa [fields] using same

/-- Of two existing times the one with the smaller numbers is the earlier one. -/
theorem Exists.instant_lt_iff (h : c.Exists) (h' : c'.Exists) :
    c.instant < c'.instant ↔ c.fields < c'.fields := by
  rw [h.instant_lt_iff_seconds h']
  constructor
  · intro lt
    rcases lt_trichotomy c.fields c'.fields with less | same | greater
    · exact less
    · rw [fields_inj same] at lt
      exact absurd lt (Int.lt_irrefl _)
    · exact absurd lt (h'.seconds_lt h greater).asymm
  · exact h.seconds_lt h'

/-- The calendar has every instant that a clock can show. -/
theorem Exists.representable (h : c.Exists) : c.instant.Representable := by
  refine Instant.OnClock.representable ⟨c.date, c.hour, c.minute, c.second, h.date, h.hour,
    h.minute, h.second.trans (by decide), rfl⟩ ?_
  rw [h.instant_eq]
  exact Nat.not_succ_le_zero _

end Clock

namespace TimePoint

/-- A field as it may be written: a number of 32 bits, with zeros in front or without. -/
structure IsField (piece : List Char) : Prop where
  some : piece ≠ []
  digits : ∀ c ∈ piece, isDigit c = true
  small : value piece < fieldBound

/-- A text writes the fields of a clock, joined by hyphens, with white space around them; up to five
of them may be left out. -/
def Writes (text : String) (c : Clock) : Prop :=
  ∃ pieces : List (List Char), 1 ≤ pieces.length ∧ pieces.length ≤ 6 ∧
    trim text.toList = ['-'].intercalate pieces ∧ (∀ p ∈ pieces, IsField p) ∧
    c.fields = pieces.map value ++ [1, 1, 0, 0, 0].drop (pieces.length - 1)

/-- A time in plain decimal numbers, joined by hyphens. -/
def plain (t : Instant) : String :=
  let s := (t.second % 86400).toNat
  String.ofList <| ['-'].intercalate [(signedDecimal t.date.year).toList, digits t.date.month,
    digits t.date.day, digits (s / 3600), digits (s / 60 % 60), digits (s % 60)]

/-! ### Reading -/

theorem wordOfDigits_eq_some {piece : List Char} {n : Nat} :
    wordOfDigits fieldBound piece = some n ↔ IsField piece ∧ value piece = n := by
  unfold wordOfDigits
  split
  · next bad =>
    simp only [reduceCtorEq, false_iff]
    rintro ⟨⟨some, digits, -⟩, -⟩
    simp [some] at bad
    obtain ⟨c, hc, other⟩ := bad
    rw [digits c hc] at other
    cases other
  · next good =>
    rw [Bool.or_eq_true, not_or, List.isEmpty_iff] at good
    obtain ⟨some, digits⟩ := good
    have digits : ∀ c ∈ piece, isDigit c = true := by simpa using digits
    split
    · next small =>
      rw [Option.some_inj]
      exact ⟨fun same => ⟨⟨some, digits, small⟩, same⟩, And.right⟩
    · next large =>
      simp only [reduceCtorEq, false_iff]
      exact fun written => large written.1.small

theorem mapM_wordOfDigits_eq_some {pieces : List (List Char)} {numbers : List Nat} :
    pieces.mapM (wordOfDigits fieldBound) = some numbers ↔
      (∀ p ∈ pieces, IsField p) ∧ pieces.map value = numbers := by
  induction pieces generalizing numbers with
  | nil => simp [eq_comm]
  | cons p pieces ih =>
    simp only [List.mapM_cons, Option.bind_eq_bind, Option.bind_eq_some_iff, Option.pure_def,
      Option.some_inj, wordOfDigits_eq_some, ih, List.forall_mem_cons, List.map_cons]
    constructor
    · rintro ⟨n, ⟨first, rfl⟩, rest, ⟨all, rfl⟩, rfl⟩
      exact ⟨⟨first, all⟩, rfl⟩
    · rintro ⟨⟨first, all⟩, rfl⟩
      exact ⟨_, ⟨first, rfl⟩, _, ⟨all, rfl⟩, rfl⟩

/-- The fields of a text are read if and only if they are written there. -/
theorem fields?_eq_some {cs : List Char} {numbers : List Nat} : fields? cs = some numbers ↔
    ∃ pieces : List (List Char), 1 ≤ pieces.length ∧ pieces.length ≤ 6 ∧
      cs = ['-'].intercalate pieces ∧ (∀ p ∈ pieces, IsField p) ∧ pieces.map value = numbers := by
  simp only [fields?]
  constructor
  · intro read
    split at read
    · next few =>
      refine ⟨cs.splitOn '-', ?_, few, (List.intercalate_splitOn '-').symm,
        mapM_wordOfDigits_eq_some.mp read⟩
      exact List.length_pos_of_ne_nil (List.splitOn_ne_nil '-' cs)
    · cases read
  · rintro ⟨pieces, some, few, rfl, fields⟩
    -- a hyphen is no digit, so the text comes apart where it has been put together
    have unbroken : ∀ p ∈ pieces, '-' ∉ p := by
      intro p hp minus
      have := (fields.1 p hp).digits '-' minus
      cases this
    rw [List.splitOn_intercalate '-' unbroken (List.ne_nil_of_length_pos some), if_pos few]
    exact mapM_wordOfDigits_eq_some.mpr fields

/-- The clock of some numbers, those that are left out being filled in. -/
def clockOf (numbers : List Nat) : Clock :=
  ⟨numbers.getD 0 0, numbers.getD 1 1, numbers.getD 2 1, numbers.getD 3 0, numbers.getD 4 0,
    numbers.getD 5 0⟩

theorem fields_clockOf {numbers : List Nat} (some : 1 ≤ numbers.length)
    (few : numbers.length ≤ 6) :
    (clockOf numbers).fields = numbers ++ [1, 1, 0, 0, 0].drop (numbers.length - 1) := by
  match numbers, some, few with
  | [_], _, _ => rfl
  | [_, _], _, _ => rfl
  | [_, _, _], _, _ => rfl
  | [_, _, _, _], _, _ => rfl
  | [_, _, _, _, _], _, _ => rfl
  | [_, _, _, _, _, _], _, _ => rfl

theorem instant?_eq_some {numbers : List Nat} {t : Instant} :
    instant? numbers = some t ↔ (clockOf numbers).Exists ∧ (clockOf numbers).instant = t := by
  show (if (clockOf numbers).hour < 24 ∧ (clockOf numbers).minute < 60 ∧
      (clockOf numbers).second < 60 then
    (Date.make? _ _ _).map fun d => Instant.ofClock d _ _ _ else none) = some t ↔ _
  split
  · next time =>
    rw [Option.map_eq_some_iff]
    unfold Date.make?
    split
    · next day =>
      simp only [Option.some_inj, exists_eq_left']
      exact ⟨fun same => ⟨⟨day, time.1, time.2.1, Nat.le_of_lt_succ time.2.2⟩, same⟩, And.right⟩
    · next none =>
      simp only [reduceCtorEq, false_and, exists_false, false_iff]
      exact fun h => none h.1.date
  · next none =>
    simp only [reduceCtorEq, false_iff]
    exact fun h => none ⟨h.1.hour, h.1.minute, Nat.lt_succ_of_le h.1.second⟩

/-- A text is accepted if and only if it writes an existing date and time. -/
theorem parse_eq_ok {text : String} {t : Instant} :
    parse text = .ok t ↔ ∃ c, Writes text c ∧ c.Exists ∧ c.instant = t := by
  have read : parse text = .ok t ↔ (fields? (trim text.toList) >>= instant?) = some t := by
    unfold parse
    split
    · next t' some =>
      rw [some, Except.ok.injEq, Option.some_inj]
    · next none => simp [none]
  rw [read, Option.bind_eq_bind, Option.bind_eq_some_iff]
  constructor
  · rintro ⟨numbers, fields, instant⟩
    obtain ⟨pieces, some, few, split, all, rfl⟩ := fields?_eq_some.mp fields
    refine ⟨_, ⟨pieces, some, few, split, all, ?_⟩, instant?_eq_some.mp instant⟩
    rw [fields_clockOf (by simpa using some) (by simpa using few), List.length_map]
  · rintro ⟨c, ⟨pieces, some, few, split, all, fields⟩, exist⟩
    refine ⟨_, fields?_eq_some.mpr ⟨pieces, some, few, split, all, rfl⟩, ?_⟩
    have same : c = clockOf (pieces.map value) := by
      apply Clock.fields_inj
      rw [fields, fields_clockOf (by simpa using some) (by simpa using few), List.length_map]
    rw [instant?_eq_some, ← same]
    exact exist

/-- What is not accepted is refused by its own text. -/
theorem parse_eq_error {text : String} (h : ∀ c, Writes text c → ¬c.Exists) :
    parse text = .error (.invalidPoint text) := by
  rcases parsed : parse text with e | t
  · unfold parse at parsed
    split at parsed
    · cases parsed
    · exact congrArg _ (Except.error.inj parsed).symm
  · obtain ⟨c, writes, exist, -⟩ := parse_eq_ok.mp parsed
    exact absurd exist (h c writes)

/-! ### Periods -/

theorem epochMillis_instant {c : Clock} (h : c.Exists) :
    c.instant.epochMillis = c.seconds * 1000 := by
  rw [h.instant_eq, Instant.epochMillis]
  exact Int.add_zero _

/-- Times of the clock are within the calendar, so it only matters which of two is the earlier. -/
theorem make?_instant {c c' : Clock} (h : c.Exists) (h' : c'.Exists) :
    (Period.make? c.instant.epochMillis c'.instant.epochMillis = .error .reversed ↔
      c'.fields < c.fields) ∧
    (¬c'.fields < c.fields → ∃ p,
      Period.make? c.instant.epochMillis c'.instant.epochMillis = .ok p ∧
        p.start = c.instant.epochMillis ∧ p.stop = c'.instant.epochMillis) := by
  have reversed : c'.fields < c.fields ↔ ¬c.instant.epochMillis ≤ c'.instant.epochMillis := by
    rw [← h'.instant_lt_iff h, h'.instant_lt_iff_seconds h, epochMillis_instant h,
      epochMillis_instant h']
    omega
  have low : Instant.minMillis ≤ c.instant.epochMillis ∧ _ := h.representable
  have low' : Instant.minMillis ≤ c'.instant.epochMillis ∧ _ := h'.representable
  rw [reversed, Period.make?, dif_neg (not_not.mpr low), dif_neg (not_not.mpr low')]
  split
  · next ordered => simp [ordered]
  · next late => simp [late]

/-! ### Writing -/

/-- What is seen on a clock is what it has been set to. -/
theorem plain_instant {c : Clock} (h : c.Exists) :
    plain c.instant = String.ofList (['-'].intercalate (c.fields.map digits)) := by
  have day : c.instant.date = c.date := by
    rw [Instant.date, Clock.instant, Instant.dayNumber_ofClock c.date h.hour h.minute
      (h.second.trans (by decide)), h.date.inYear.ofDayNumber_dayNumber]
  have clock : (c.instant.second % 86400).toNat = c.hour * 3600 + c.minute * 60 + c.second := by
    have := h.hour
    have := h.minute
    have := h.second
    rw [h.instant_eq]
    simp only [Clock.seconds]
    omega
  have := h.minute
  have := h.second
  have hour : (c.hour * 3600 + c.minute * 60 + c.second) / 3600 = c.hour := by omega
  have minute : (c.hour * 3600 + c.minute * 60 + c.second) / 60 % 60 = c.minute := by omega
  have second : (c.hour * 3600 + c.minute * 60 + c.second) % 60 = c.second := by omega
  have year : (signedDecimal c.date.year).toList = digits c.year := String.toList_ofList
  rw [plain, day, clock, hour, minute, second, year]
  rfl

theorem trim_of_seen {cs : List Char} (seen : ∀ c ∈ cs, isBlank c = false) : trim cs = cs := by
  have front : ∀ {cs : List Char}, (∀ c ∈ cs, isBlank c = false) → trimStart cs = cs := by
    intro cs seen
    rcases cs with - | ⟨c, cs⟩
    · rfl
    · exact trimStart_cons cs (seen c List.mem_cons_self)
  rw [trim, front seen, front fun c hc => seen c (List.mem_reverse.mp hc), List.reverse_reverse]

theorem isField_digits {n : Nat} (small : n < fieldBound) : IsField (digits n) where
  some := digits_ne_nil n
  digits := fun _ hc => isDigit_of_mem_digits hc
  small := by rwa [value_digits]

/-- A time that has been written in plain decimal is read back. -/
theorem writes_plain {c : Clock} (h : c.Exists) : Writes (plain c.instant) c := by
  have small : ∀ n ∈ c.fields, n < fieldBound := by
    obtain ⟨⟨-, year, -, month, -, day⟩, hour, minute, second⟩ := h
    have short := day.trans (daysInMonth_le c.date.year c.date.month)
    simp only [Clock.date, maxYear] at year month short
    simp only [Clock.fields, fieldBound, UInt32.size, List.forall_mem_cons, List.not_mem_nil,
      IsEmpty.forall_iff, implies_true, and_true]
    omega
  refine ⟨c.fields.map digits, by simp [Clock.fields], by simp [Clock.fields], ?_, ?_, ?_⟩
  · rw [plain_instant h, String.toList_ofList]
    apply trim_of_seen
    intro d hd
    have written : d = '-' ∨ ∃ n, d ∈ digits n := by
      simp only [Clock.fields, List.map_cons, List.map_nil, List.intercalate_cons_cons,
        List.intercalate_singleton, List.mem_append, List.mem_singleton] at hd
      tauto
    rcases written with rfl | ⟨n, digit⟩
    · rfl
    · exact isBlank_of_isDigit (isDigit_of_mem_digits digit)
  · intro p hp
    obtain ⟨n, hn, rfl⟩ := List.mem_map.mp hp
    exact isField_digits (small n hn)
  · simp [Clock.fields]

/-- What `parse` does to a text, and `Period.parse` to two of them. -/
structure Exact (start stop : String) : Prop where
  /-- Just the texts that write an existing date and time are accepted. -/
  accepts : ∀ t, parse start = .ok t ↔ ∃ c, Writes start c ∧ c.Exists ∧ c.instant = t
  /-- All others are refused. -/
  refuses : (∀ c, Writes start c → ¬c.Exists) → parse start = .error (.invalidPoint start)
  /-- The order of the instants is that of the fields. -/
  order : ∀ c c', Writes start c → c.Exists → Writes stop c' → c'.Exists →
    (c.instant < c'.instant ↔ c.fields < c'.fields)
  /-- A period is reversed if the fields of its start are the greater ones. -/
  reversed : ∀ c c', Writes start c → c.Exists → Writes stop c' → c'.Exists →
    (Period.parse start stop = .error .reversed ↔ c'.fields < c.fields)
  /-- Else it is the one between the two. -/
  period : ∀ c c', Writes start c → c.Exists → Writes stop c' → c'.Exists →
    ¬c'.fields < c.fields → ∃ p, Period.parse start stop = .ok p ∧
      p.start = c.instant.epochMillis ∧ p.stop = c'.instant.epochMillis
  /-- A time that has been read can be written and read again. -/
  again : ∀ t, parse start = .ok t → parse (plain t) = .ok t

theorem parse_exact (start stop : String) : Exact start stop := by
  have made : ∀ {c c'}, Writes start c → c.Exists → Writes stop c' → c'.Exists →
      Period.parse start stop = Period.make? c.instant.epochMillis c'.instant.epochMillis := by
    intro c c' writes exist writes' exist'
    rw [Period.parse, parse_eq_ok.mpr ⟨c, writes, exist, rfl⟩,
      parse_eq_ok.mpr ⟨c', writes', exist', rfl⟩]
    rfl
  refine ⟨fun t => parse_eq_ok, parse_eq_error, ?_, ?_, ?_, ?_⟩
  · exact fun c c' _ exist _ exist' => exist.instant_lt_iff exist'
  · intro c c' writes exist writes' exist'
    rw [made writes exist writes' exist']
    exact (make?_instant exist exist').1
  · intro c c' writes exist writes' exist'
    rw [made writes exist writes' exist']
    exact (make?_instant exist exist').2
  · intro t parsed
    obtain ⟨c, -, exist, rfl⟩ := parse_eq_ok.mp parsed
    exact parse_eq_ok.mpr ⟨c, writes_plain exist, exist, rfl⟩

example : parse "2020-02-29 " = .ok ⟨1582934400, 0⟩ := by cbv

end TimePoint

end Scrollback
