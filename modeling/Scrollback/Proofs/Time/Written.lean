/-
Times as text.  Every number of a time is written at its full width, and a year that needs more than four
digits has a sign, so where a number ends never depends on what comes after it: a time that has been
written is read back, whatever stands behind it (`Stamp.read_text`).  This holds of the years before 0
and after 9999 and of leap seconds too.
-/
import Scrollback.Proofs.Decimal
import Scrollback.Proofs.Time.Millis

namespace Scrollback

theorem trimStart_cons {c : Char} (cs : List Char) (seen : isBlank c = false) :
    trimStart (c :: cs) = c :: cs :=
  List.dropWhile_cons_of_neg (by simp [seen])

/-- There is no white space in front of a number. -/
theorem trimStart_padded (width n : Nat) (rest : List Char) :
    trimStart (padded width n ++ rest) = padded width n ++ rest := by
  rcases number : padded width n with - | ⟨c, cs⟩
  · exact absurd number (padded_ne_nil width n)
  · have digit : c ∈ padded width n := number ▸ List.mem_cons_self
    exact trimStart_cons _ (isBlank_of_isDigit (isDigit_of_mem_padded digit))

namespace Stamp

variable {rest : List Char}

/-! ### Numbers in front of a text -/

/-- A number ends where no more digits are allowed, or where something else comes. -/
theorem number_append {limit : Nat} {found : List Char} (nonempty : found ≠ [])
    (all : ∀ c ∈ found, isDigit c = true) (short : found.length ≤ limit) (rest : List Char)
    (ends : found.length = limit ∨ ∀ c ∈ rest.head?, isDigit c = false) :
    number limit (found ++ rest) = some (value found, rest) := by
  have stops : (rest.take (limit - found.length)).takeWhile isDigit = [] := by
    rcases ends with full | other
    · rw [full, Nat.sub_self]
      rfl
    · rcases rest with - | ⟨c, rest⟩
      · rw [List.take_nil]
        rfl
      · rcases limit - found.length with - | room
        · rfl
        · exact List.takeWhile_cons_of_neg (by simp [other c rfl])
  have taken : ((found ++ rest).take limit).takeWhile isDigit = found := by
    rw [List.take_append, List.take_of_length_le short, List.takeWhile_append_of_pos all, stops,
      List.append_nil]
  rw [number, taken, if_neg (by simpa using nonempty), List.drop_left]

@[simp] theorem mark_cons (c : Char) (rest : List Char) : mark c (c :: rest) = some rest :=
  if_pos rfl

/-- Two digits are read as one number, and no more of them. -/
theorem field_padded {n : Nat} (small : n < 100) (rest : List Char) :
    field (padded 2 n ++ rest) = some (n, rest) := by
  have width := length_padded (length_digits_le_two small)
  rw [field, trimStart_padded, number_append (padded_ne_nil 2 n) (fun c => isDigit_of_mem_padded)
    width.le rest (.inl width), value_padded]

/-- The space between date and time is passed over. -/
theorem field_space_padded {n : Nat} (small : n < 100) (rest : List Char) :
    field (' ' :: (padded 2 n ++ rest)) = some (n, rest) := by
  rw [← field_padded small rest]
  rfl

theorem year_minus {n : Nat} {cs : List Char} (h : number cs.length cs = some (n, rest)) :
    year ('-' :: cs) = some (-(n : Int), rest) := by
  show (number cs.length cs).map _ = _
  rw [h]
  rfl

theorem year_plus {n : Nat} {cs : List Char} (h : number cs.length cs = some (n, rest)) :
    year ('+' :: cs) = some ((n : Int), rest) := by
  show (number cs.length cs).map _ = _
  rw [h]
  rfl

theorem year_digit {n : Nat} {c : Char} {cs : List Char} (digit : isDigit c = true)
    (h : number 4 (c :: cs) = some (n, rest)) : year (c :: cs) = some ((n : Int), rest) := by
  rw [year, trimStart_cons cs (isBlank_of_isDigit digit)]
  split
  · next minus =>
    obtain ⟨rfl, -⟩ := List.cons.inj minus
    cases digit
  · next plus =>
    obtain ⟨rfl, -⟩ := List.cons.inj plus
    cases digit
  · rw [h]
    rfl

/-- A year is read up to the sign behind it, however many digits it has. -/
theorem year_yearText (y : Int) (rest : List Char) :
    year (Date.yearText y ++ '-' :: rest) = some (y, '-' :: rest) := by
  -- behind a sign the number ends where the digits end
  have signed : number (padded 4 y.natAbs ++ '-' :: rest).length (padded 4 y.natAbs ++ '-' :: rest) =
      some (y.natAbs, '-' :: rest) := by
    have ends : ∀ c ∈ ('-' :: rest).head?, isDigit c = false := by
      rintro c ⟨⟩
      decide
    rw [number_append (padded_ne_nil 4 _) (fun c => isDigit_of_mem_padded) (by simp) _ (.inr ends),
      value_padded]
  rw [Date.yearText]
  split
  · -- without a sign there are four digits
    next range =>
    have width := length_padded (length_digits_le_four (n := y.toNat) (by omega))
    have four := number_append (padded_ne_nil 4 y.toNat) (fun c => isDigit_of_mem_padded) width.le
      ('-' :: rest) (.inl width)
    rw [value_padded] at four
    rcases digits : padded 4 y.toNat with - | ⟨c, cs⟩
    · exact absurd digits (padded_ne_nil 4 _)
    · have digit : c ∈ padded 4 y.toNat := digits ▸ List.mem_cons_self
      rw [digits, List.cons_append] at four
      rw [List.cons_append, year_digit (isDigit_of_mem_padded digit) four, Int.toNat_of_nonneg range.1]
  · split
    · next negative =>
      rw [List.cons_append, year_minus signed, Int.ofNat_natAbs_of_nonpos negative.le, neg_neg]
    · next positive =>
      rw [List.cons_append, year_plus signed, Int.natAbs_of_nonneg (not_lt.mp positive)]

theorem instant?_eq_some {d : Date} {hour minute second : Nat} (exist : d.Exists) (hh : hour < 24)
    (hm : minute < 60) (hs : second ≤ 60) : instant? d.year d.month d.day hour minute second =
      some (Instant.ofClock d hour minute second) := by
  rw [instant?, if_pos ⟨hh, hm, hs⟩, Date.make?, if_pos exist]
  rfl

end Stamp

/-! ### Times -/

namespace Instant

/-- A time of the day is written as it is read off a clock. -/
theorem text_ofClock {d : Date} {hour minute second : Nat} (exist : d.Exists) (hh : hour < 24)
    (hm : minute < 60) (hs : second ≤ 60) : (ofClock d hour minute second).text =
      d.text ++ ' ' :: padded 2 hour ++ ':' :: padded 2 minute ++ ':' :: padded 2 second := by
  have day : (ofClock d hour minute second).date = d := by
    rw [date, dayNumber_ofClock d hh hm hs, exist.inYear.ofDayNumber_dayNumber]
  have clock : ∃ s : Nat, ((ofClock d hour minute second).second % 86400).toNat = s ∧
      s / 3600 = hour ∧ s / 60 % 60 = minute ∧
      s % 60 + (ofClock d hour minute second).milli / 1000 = second := by
    refine ⟨_, rfl, ?_⟩
    simp only [ofClock]
    split <;> dsimp only <;> omega
  obtain ⟨s, within, hhour, hminute, hsecond⟩ := clock
  rw [text, day, within, hhour, hminute, hsecond]

/-- A time is written with digits, signs and colons and one space. -/
theorem notMem_text {c : Char} (digit : isDigit c = false) (mark : c ∉ ['-', '+', ' ', ':'])
    (t : Instant) : c ∉ t.text := by
  have number : ∀ width n, c ∉ padded width n := by
    intro width n hc
    rw [isDigit_of_mem_padded hc] at digit
    cases digit
  have year : ∀ y, c ∉ Date.yearText y := by
    intro y
    rw [Date.yearText]
    split
    · exact number _ _
    · split <;> simp_all
  simp_all [text, Date.text]

end Instant

/-- A time that has been written is read back, whatever stands behind it. -/
theorem Stamp.read_text {t : Instant} (h : t.OnClock) (rest : List Char) :
    read (t.text ++ rest) = some (t, rest) := by
  obtain ⟨d, hour, minute, second, exist, hh, hm, hs, rfl⟩ := h
  have month_le := exist.inYear.month_le
  have day_le := exist.inYear.day_le.trans (daysInMonth_le d.year d.month)
  -- each number is read up to its last digit
  have read_month := @field_padded d.month (by omega)
  have read_day := @field_padded d.day (by omega)
  have read_hour := @field_space_padded hour (by omega)
  have read_minute := @field_padded minute (by omega)
  have read_second := @field_padded second (by omega)
  rw [Instant.text_ofClock exist hh hm hs, Date.text]
  simp only [List.append_assoc, List.cons_append]
  simp only [read, year_yearText, mark_cons, read_month, read_day, read_hour, read_minute, read_second,
    instant?_eq_some exist hh hm hs, Option.bind_eq_bind, Option.bind_some, Option.pure_def]

end Scrollback
