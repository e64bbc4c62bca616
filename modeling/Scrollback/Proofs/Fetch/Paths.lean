/-
The paths of targets.  A path is put together from pieces, with slashes between them, and then
escaped character by character.  The escapes can be read back (`flatMap_pathChar_inj`), and no piece
has a slash of its own, so the pieces are told apart by the path; those of a user and a month are one
more in number than those of a channel and a day.  So there is a path for each target.

A library that does what is documented sends a path whole if it sends it.  But it refuses one with a
character in it that cannot stand there, and of these only the space is escaped: the log of a user
with an angle bracket in the name cannot be asked for (`Wish.angleUser_not_sent`).

Main statement: `Wish.tells_apart`.
-/
import Scrollback.Proofs.Disk.Path
import Scrollback.Proofs.Fetch.Request
import Scrollback.Proofs.Targets
import Scrollback.Proofs.Text

namespace Scrollback

/-! ### Escapes -/

namespace Service

/-- The character in front of some escaped ones, and the rest of them. -/
def charOf? : List Char → Option (Char × List Char)
  | '%' :: '2' :: '0' :: rest => some (' ', rest)
  | '%' :: '2' :: '3' :: rest => some ('#', rest)
  | '%' :: '3' :: 'F' :: rest => some ('?', rest)
  | '%' :: '2' :: '5' :: rest => some ('%', rest)
  | c :: rest => some (c, rest)
  | [] => none

/-- The characters that are escaped, with their escapes. -/
def escapes : List (Char × List Char) :=
  [(' ', ['%', '2', '0']), ('#', ['%', '2', '3']), ('?', ['%', '3', 'F']), ('%', ['%', '2', '5'])]

/-- A character has an escape, or else stands for itself. -/
theorem pathChar_cases (c : Char) : (c, pathChar c) ∈ escapes ∨
    (c ≠ ' ' ∧ c ≠ '#' ∧ c ≠ '?' ∧ c ≠ '%') ∧ pathChar c = [c] := by
  by_cases escaped : c = ' ' ∨ c = '#' ∨ c = '?' ∨ c = '%'
  · left
    rcases escaped with rfl | rfl | rfl | rfl <;> decide
  · right
    simp only [not_or] at escaped
    obtain ⟨space, hash, mark, percent⟩ := escaped
    refine ⟨⟨space, hash, mark, percent⟩, ?_⟩
    rw [pathChar, if_neg space, if_neg hash, if_neg mark, if_neg percent]

theorem charOf?_pathChar (c : Char) (rest : List Char) :
    charOf? (pathChar c ++ rest) = some (c, rest) := by
  obtain escaped | ⟨⟨-, -, -, percent⟩, itself⟩ := pathChar_cases c
  · have table : ∀ e ∈ escapes, charOf? (e.2 ++ rest) = some (e.1, rest) := by
      intro e he
      simp only [escapes, List.mem_cons, List.not_mem_nil, or_false] at he
      rcases he with rfl | rfl | rfl | rfl <;> rfl
    exact table _ escaped
  · rw [itself, List.singleton_append]
    unfold charOf?
    split <;> simp_all

/-- Texts are told apart by how they are escaped. -/
theorem flatMap_pathChar_inj {a b : List Char} (h : a.flatMap pathChar = b.flatMap pathChar) :
    a = b := by
  have nonempty : ∀ (c : Char) (rest : List Char), pathChar c ++ rest ≠ [] := by
    intro c rest nil
    have := charOf?_pathChar c rest
    rw [nil] at this
    cases this
  induction a generalizing b with
  | nil =>
    cases b with
    | nil => rfl
    | cons d b => exact absurd h.symm (nonempty d _)
  | cons c a ih =>
    cases b with
    | nil => exact absurd h (nonempty c _)
    | cons d b =>
      rw [List.flatMap_cons, List.flatMap_cons] at h
      have first := congrArg charOf? h
      rw [charOf?_pathChar, charOf?_pathChar, Option.some_inj, Prod.mk.injEq] at first
      rw [first.1, ih first.2]

/-- What is escaped has nothing in it that would end a path. -/
theorem plain_of_mem_flatMap_pathChar {cs : List Char} {c : Char} (h : c ∈ cs.flatMap pathChar) :
    c ≠ ' ' ∧ c ≠ '#' ∧ c ≠ '?' := by
  obtain ⟨d, -, hc⟩ := List.mem_flatMap.mp h
  obtain escaped | ⟨⟨space, hash, mark, -⟩, itself⟩ := pathChar_cases d
  · have table : ∀ e ∈ escapes, ∀ c ∈ e.2, c ≠ ' ' ∧ c ≠ '#' ∧ c ≠ '?' := by
      simp [escapes]
    exact table _ escaped c hc
  · rw [itself, List.mem_singleton] at hc
    subst hc
    exact ⟨space, hash, mark⟩

end Service

namespace Service

/-- What stands for an escaped character can be sent. -/
theorem isPlain_of_mem_escape {e : Char × List Char} {c : Char} (he : e ∈ escapes) (hc : c ∈ e.2) :
    Question.isPlain c = true := by
  have table : ∀ e ∈ escapes, e.2.all Question.isPlain = true := by decide
  exact List.all_eq_true.mp (table e he) c hc

/-- Only the space is escaped of the characters that cannot be sent. -/
theorem mem_pathChar_of_isForbidden {c : Char} (forbidden : Question.isForbidden c = true)
    (space : c ≠ ' ') : c ∈ pathChar c := by
  have allowed : ∀ d, Question.isForbidden d = false → c ≠ d := by
    rintro d free rfl
    rw [free] at forbidden
    cases forbidden
  rw [pathChar, if_neg space, if_neg (allowed '#' (by decide)), if_neg (allowed '?' (by decide)),
    if_neg (allowed '%' (by decide))]
  exact List.mem_singleton_self c

end Service

/-! ### Pieces -/

/-- What is wished for: the log of a user in a month, or that of everybody on a day. -/
inductive Wish where
  | month (channel user : String) (m : YearMonth)
  | day (channel : String) (d : Date)

namespace Wish

/-- The target that serves a wish. -/
def target (s : Service) : Wish → Target
  | month channel user m => s.monthlyTarget channel user m
  | day channel d => s.dailyTarget channel d

/-- There is such a month or day, and no name has a slash in it. -/
def Valid : Wish → Prop
  | month channel user m => '/' ∉ channel.toList ∧ '/' ∉ user.toList ∧ m.Exists
  | day channel d => '/' ∉ channel.toList ∧ d.Exists

/-- The month of a year, as it stands in a path. -/
def monthPiece (month : Nat) (year : Int) : List Char :=
  (monthName month).toList ++ ' ' :: (signedDecimal year).toList

/-- The pieces of a path. -/
def pieces : Service → Wish → List (List Char)
  | .gempir, month channel user m =>
    [[], "channel".toList, channel.toList, "user".toList, user.toList,
      (signedDecimal m.year).toList, digits m.month]
  | .gempir, day channel d =>
    [[], "channel".toList, channel.toList, (signedDecimal d.year).toList, digits d.month,
      digits d.day]
  | .overrustle, month channel user m =>
    [[], channel.toList ++ " chatlog".toList, monthPiece m.month m.year, "userlogs".toList,
      user.toList ++ ".txt".toList]
  | .overrustle, day channel d =>
    [[], channel.toList ++ " chatlog".toList, monthPiece d.month d.year,
      d.text ++ ".txt".toList]

variable {s : Service} {a b : Wish}

/-- A path is its pieces with slashes between them, escaped. -/
theorem toList_path (s : Service) (a : Wish) :
    (a.target s).path.toList = (['/'].intercalate (a.pieces s)).flatMap Service.pathChar := by
  cases a <;> cases s <;>
    simp [target, Service.monthlyTarget, Service.dailyTarget, Service.escapePath, pieces,
      monthPiece, YearMonth.name, decimal, List.flatMap_append]

/-! ### Months -/

theorem notMem_signedDecimal {c : Char} (digit : c.isDigit = false) (minus : c ≠ '-') (i : Int) :
    c ∉ (signedDecimal i).toList := by
  intro hc
  rcases mem_signedDecimal hc with is | is
  · rw [is] at digit
    cases digit
  · exact minus is

theorem slash_notMem_signedDecimal (i : Int) : '/' ∉ (signedDecimal i).toList :=
  notMem_signedDecimal (by decide) (by decide) i

theorem space_notMem_monthName (month : Nat) : ' ' ∉ (monthName month).toList := by
  unfold monthName
  split <;> decide

theorem slash_notMem_monthName (month : Nat) : '/' ∉ (monthName month).toList := by
  unfold monthName
  split <;> decide

/-- The twelve months have names of their own. -/
theorem monthName_inj {month month' : Nat} (low : 1 ≤ month) (high : month ≤ 12) (low' : 1 ≤ month')
    (high' : month' ≤ 12) (same : monthName month = monthName month') : month = month' := by
  have table : ∀ i < 12, ∀ j < 12, monthName (i + 1) = monthName (j + 1) → i = j := by decide
  have := table (month - 1) (by omega) (month' - 1) (by omega)
    (by rwa [Nat.sub_add_cancel low, Nat.sub_add_cancel low'])
  omega

theorem monthPiece_inj {month month' : Nat} {year year' : Int} (low : 1 ≤ month) (high : month ≤ 12)
    (low' : 1 ≤ month') (high' : month' ≤ 12)
    (same : monthPiece month year = monthPiece month' year') : month = month' ∧ year = year' := by
  -- the first space ends the name
  obtain ⟨names, -, years⟩ := (List.append_cons_inj_of_notMem (space_notMem_monthName month)
    (notMem_signedDecimal (by decide) (by decide) year)).mp same
  exact ⟨monthName_inj low high low' high' (String.toList_inj.mp names),
    signedDecimal_inj (String.toList_inj.mp years)⟩

/-- Days of one month are told apart by the ends of their dates. -/
theorem day_eq_of_text {d d' : Date} (year : d.year = d'.year) (month : d.month = d'.month)
    (same : d.text = d'.text) : d = d' := by
  have days : padded 2 d.day = padded 2 d'.day := by
    simpa [Date.text, year, month] using same
  have days := congrArg value days
  rw [value_padded, value_padded] at days
  cases d
  cases d'
  simp_all

/-! ### Telling apart -/

theorem slash_notMem_digits (n : Nat) : '/' ∉ digits n := by
  intro slash
  cases isDigit_of_mem_digits slash

theorem slash_notMem_text (d : Date) : '/' ∉ d.text := by
  have number : ∀ width n, '/' ∉ padded width n := by
    intro width n slash
    cases isDigit_of_mem_padded slash
  have year : '/' ∉ Date.yearText d.year := by
    rw [Date.yearText]
    split
    · exact number _ _
    · split <;> simp [number]
  simp [Date.text, year, number]

/-- No piece has a slash of its own. -/
theorem slash_notMem_pieces (ha : a.Valid) : ∀ p ∈ a.pieces s, '/' ∉ p := by
  cases a with
  | month channel user m =>
    obtain ⟨channel_free, user_free, -⟩ := ha
    cases s <;> simp [pieces, monthPiece, channel_free, user_free, slash_notMem_signedDecimal,
      slash_notMem_digits, slash_notMem_monthName]
  | day channel d =>
    obtain ⟨channel_free, -⟩ := ha
    cases s <;> simp [pieces, monthPiece, channel_free, slash_notMem_signedDecimal,
      slash_notMem_digits, slash_notMem_monthName, slash_notMem_text]

/-- A wish is told by its pieces. -/
theorem pieces_inj (ha : a.Valid) (hb : b.Valid) (same : a.pieces s = b.pieces s) : a = b := by
  cases a with
  | month channel user m =>
    cases b with
    | month channel' user' m' =>
      obtain ⟨-, -, -, -, low, high, -⟩ := ha
      obtain ⟨-, -, -, -, low', high', -⟩ := hb
      cases m
      cases m'
      cases s with
      | gempir =>
        simp only [pieces, List.cons.injEq, true_and, and_true, String.toList_inj] at same
        obtain ⟨rfl, rfl, year, month⟩ := same
        rw [signedDecimal_inj year, digits_inj month]
      | overrustle =>
        simp only [pieces, List.cons.injEq, true_and, and_true, List.append_left_inj,
          String.toList_inj] at same
        obtain ⟨rfl, piece, rfl⟩ := same
        obtain ⟨rfl, rfl⟩ := monthPiece_inj low high low' high' piece
        rfl
    | day channel' d' =>
      -- there is one piece too many
      cases s <;> cases congrArg List.length same
  | day channel d =>
    cases b with
    | month channel' user' m' => cases s <;> cases congrArg List.length same
    | day channel' d' =>
      obtain ⟨-, -, -, low, high, -⟩ := ha
      obtain ⟨-, -, -, low', high', -⟩ := hb
      cases s with
      | gempir =>
        cases d
        cases d'
        simp only [pieces, List.cons.injEq, true_and, and_true, String.toList_inj] at same
        obtain ⟨rfl, year, month, day⟩ := same
        rw [signedDecimal_inj year, digits_inj month, digits_inj day]
      | overrustle =>
        simp only [pieces, List.cons.injEq, true_and, and_true, List.append_left_inj,
          String.toList_inj] at same
        obtain ⟨rfl, piece, text⟩ := same
        obtain ⟨month, year⟩ := monthPiece_inj low high low' high' piece
        rw [day_eq_of_text year month text]

/-- Different wishes are asked for by different paths. -/
theorem path_inj (ha : a.Valid) (hb : b.Valid) (same : (a.target s).path = (b.target s).path) :
    a = b := by
  have lists := congrArg String.toList same
  rw [toList_path, toList_path] at lists
  -- read back what is escaped, then cut at the slashes
  have joined := congrArg (List.splitOn '/') (Service.flatMap_pathChar_inj lists)
  have some : ∀ w : Wish, w.pieces s ≠ [] := by
    intro w
    cases w <;> cases s <;> exact List.cons_ne_nil _ _
  rw [List.splitOn_intercalate '/' (slash_notMem_pieces ha) (some a),
    List.splitOn_intercalate '/' (slash_notMem_pieces hb) (some b)] at joined
  exact pieces_inj ha hb joined

end Wish

/-! ### Periods -/

namespace Period

variable {d d' : Date} {m m' : YearMonth}

/-- Every day of the calendar has begun before the calendar ends. -/
theorem exists_instant (h : d.Exists) :
    ∃ t, t < Instant.ofMillis Instant.maxMillis ∧ t.date = d := by
  obtain ⟨inYear, -, high⟩ := Date.exists_iff.mp h
  refine ⟨⟨d.dayNumber * 86400, 0⟩, ?_, ?_⟩
  · show Instant.lt _ _
    simp only [Date.lastDayNumber] at high
    simp only [Instant.lt, Instant.ofMillis, Instant.maxMillis]
    omega
  · rw [Instant.date, Instant.dayNumber, Int.mul_ediv_cancel _ (by decide)]
    exact inYear.ofDayNumber_dayNumber

theorem day_inj (h : d.Exists) (h' : d'.Exists) (same : day d = day d') : d = d' := by
  obtain ⟨t, before, date⟩ := exists_instant h
  rw [← date, ← contains_day h' before, ← same, contains_day h before]
  exact date

theorem month_inj (h : m.Exists) (h' : m'.Exists) (same : month m = month m') : m = m' := by
  obtain ⟨t, before, date⟩ := exists_instant (d := m.firstDay) h
  have first : YearMonth.of t.date = m := by rw [date]; rfl
  rw [← first, ← contains_month h' before, ← same, contains_month h before]
  exact first

theorem two_le_daysInMonth (year : Int) {month : Nat} (low : 1 ≤ month) (high : month ≤ 12) :
    2 ≤ daysInMonth year month := by
  have table : ∀ leap, ∀ k < 12, 2 ≤ (monthLengths leap).getD k 0 := by decide
  rw [daysInMonth, if_neg (by omega)]
  exact table _ _ (by omega)

/-- As a month has more than one day, it is no day. -/
theorem month_ne_day (h : m.Exists) (h' : d.Exists) : month m ≠ day d := by
  intro same
  -- every day of the month would be the one that the period is
  have alone : ∀ d' : Date, d'.Exists → YearMonth.of d' = m → d' = d := by
    intro d' exist of
    obtain ⟨t, before, date⟩ := exists_instant exist
    rw [← date, ← contains_day h' before, ← same, contains_month h before, date]
    exact of
  have second : Date.Exists ⟨m.year, m.month, 2⟩ := by
    obtain ⟨first, last, low, high, -, -⟩ := h
    exact ⟨first, last, low, high, Nat.le_succ 1, two_le_daysInMonth m.year low high⟩
  have := (alone m.firstDay h rfl).trans (alone ⟨m.year, m.month, 2⟩ second rfl).symm
  cases congrArg Date.day this

end Period

/-! ### Requests -/

namespace Wish

variable {s : Service} {a b : Wish}

/-- Different wishes are for different logs. -/
theorem id_inj (ha : a.Valid) (hb : b.Valid) (same : (a.target s).id = (b.target s).id) :
    a = b := by
  cases a with
  | month channel user m =>
    cases b with
    | month channel' user' m' =>
      obtain ⟨rfl, period, rfl⟩ := LogId.mk.inj same
      rw [Period.month_inj ha.2.2 hb.2.2 period]
    | day channel' d' => exact absurd (LogId.mk.inj same).2.1 (Period.month_ne_day ha.2.2 hb.2)
  | day channel d =>
    cases b with
    | month channel' user' m' =>
      exact absurd (LogId.mk.inj same).2.1.symm (Period.month_ne_day hb.2.2 ha.2)
    | day channel' d' =>
      obtain ⟨rfl, period, -⟩ := LogId.mk.inj same
      rw [Period.day_inj ha.2 hb.2 period]

theorem plain_path (s : Service) (a : Wish) :
    ∀ c ∈ (a.target s).path.toList, c ≠ ' ' ∧ c ≠ '#' ∧ c ≠ '?' := by
  intro c hc
  rw [toList_path] at hc
  exact Service.plain_of_mem_flatMap_pathChar hc

theorem head?_path (s : Service) (a : Wish) : (a.target s).path.toList.head? = some '/' := by
  rw [toList_path]
  cases a <;> cases s <;> rfl

theorem hash_notMem_path (s : Service) (a : Wish) : '#' ∉ (a.target s).path.toList :=
  fun hash => (plain_path s a _ hash).2.1 rfl

theorem mark_notMem_path (s : Service) (a : Wish) : '?' ∉ (a.target s).path.toList :=
  fun mark => (plain_path s a _ mark).2.2 rfl

/-- All of a path comes before the question mark, as there is none. -/
theorem beforeMark_make (s : Service) (a : Wish) (host : String) (port : Nat) :
    (Question.make host port (a.target s).path).beforeMark = (a.target s).path.toList :=
  Question.beforeMark_eq (hash_notMem_path s a) (mark_notMem_path s a)

theorem isRooted_make (s : Service) (a : Wish) (host : String) (port : Nat) :
    (Question.make host port (a.target s).path).IsRooted :=
  head?_path s a

/-- The characters of the names in a wish. -/
def names : Wish → List Char
  | month channel user _ => channel.toList ++ user.toList
  | day channel _ => channel.toList

/-- What pieces have in them beside the names. -/
def isFixed (c : Char) : Bool :=
  c == ' ' || Question.isPlain c

theorem isFixed_of_isDigit {c : Char} (h : c.isDigit = true) : isFixed c = true := by
  rw [isFixed, Question.isPlain_of_isDigit h, Bool.or_true]

theorem isFixed_of_mem_signedDecimal {i : Int} {c : Char} (h : c ∈ (signedDecimal i).toList) :
    isFixed c = true := by
  rcases mem_signedDecimal h with digit | rfl
  · exact isFixed_of_isDigit digit
  · decide

theorem isFixed_of_mem_monthPiece {month : Nat} {year : Int} {c : Char}
    (h : c ∈ monthPiece month year) : isFixed c = true := by
  have name : (monthName month).toList.all isFixed = true := by
    unfold monthName
    split <;> decide +kernel
  rcases List.mem_append.mp h with h | h
  · exact List.all_eq_true.mp name c h
  · rcases List.mem_cons.mp h with rfl | h
    · decide
    · exact isFixed_of_mem_signedDecimal h

theorem isFixed_of_mem_text {d : Date} {c : Char} (h : c ∈ d.text) : isFixed c = true := by
  have number : ∀ width n, c ∈ padded width n → isFixed c = true :=
    fun _ _ h => isFixed_of_isDigit (isDigit_of_mem_padded h)
  have year : c ∈ Date.yearText d.year → isFixed c = true := by
    intro h
    rw [Date.yearText] at h
    split at h
    · exact number _ _ h
    · rcases List.mem_cons.mp h with rfl | h
      · split <;> decide
      · exact number _ _ h
  simp only [Date.text, List.mem_append, List.mem_cons] at h
  rcases h with ((h | rfl | h) | rfl | h)
  · exact year h
  · decide
  · exact number _ _ h
  · decide
  · exact number _ _ h

/-- Beside the names, pieces have only such characters in them as can be sent. -/
theorem mem_pieces {p : List Char} {c : Char} (hp : p ∈ a.pieces s) (hc : c ∈ p) :
    c ∈ a.names ∨ isFixed c = true := by
  have literal : ∀ text : String, text.toList.all isFixed = true → c ∈ text.toList →
      isFixed c = true := fun _ fixed => List.all_eq_true.mp fixed c
  cases a with
  | month channel user m =>
    cases s with
    | gempir =>
      simp only [pieces, List.mem_cons, List.not_mem_nil, or_false] at hp
      rcases hp with rfl | rfl | rfl | rfl | rfl | rfl | rfl
      · cases hc
      · exact .inr (literal _ (by decide) hc)
      · exact .inl (List.mem_append_left _ hc)
      · exact .inr (literal _ (by decide) hc)
      · exact .inl (List.mem_append_right _ hc)
      · exact .inr (isFixed_of_mem_signedDecimal hc)
      · exact .inr (isFixed_of_isDigit (isDigit_of_mem_digits hc))
    | overrustle =>
      simp only [pieces, List.mem_cons, List.not_mem_nil, or_false] at hp
      rcases hp with rfl | rfl | rfl | rfl | rfl
      · cases hc
      · rcases List.mem_append.mp hc with hc | hc
        · exact .inl (List.mem_append_left _ hc)
        · exact .inr (literal _ (by decide) hc)
      · exact .inr (isFixed_of_mem_monthPiece hc)
      · exact .inr (literal _ (by decide) hc)
      · rcases List.mem_append.mp hc with hc | hc
        · exact .inl (List.mem_append_right _ hc)
        · exact .inr (literal _ (by decide) hc)
  | day channel d =>
    cases s with
    | gempir =>
      simp only [pieces, List.mem_cons, List.not_mem_nil, or_false] at hp
      rcases hp with rfl | rfl | rfl | rfl | rfl | rfl
      · cases hc
      · exact .inr (literal _ (by decide) hc)
      · exact .inl hc
      · exact .inr (isFixed_of_mem_signedDecimal hc)
      · exact .inr (isFixed_of_isDigit (isDigit_of_mem_digits hc))
      · exact .inr (isFixed_of_isDigit (isDigit_of_mem_digits hc))
    | overrustle =>
      simp only [pieces, List.mem_cons, List.not_mem_nil, or_false] at hp
      rcases hp with rfl | rfl | rfl | rfl
      · cases hc
      · rcases List.mem_append.mp hc with hc | hc
        · exact .inl hc
        · exact .inr (literal _ (by decide) hc)
      · exact .inr (isFixed_of_mem_monthPiece hc)
      · rcases List.mem_append.mp hc with hc | hc
        · exact .inr (isFixed_of_mem_text hc)
        · exact .inr (literal _ (by decide) hc)

/-- The names stand in the pieces as they are. -/
theorem exists_piece {c : Char} (hc : c ∈ a.names) : ∃ p ∈ a.pieces s, c ∈ p := by
  cases a with
  | month channel user m =>
    rcases List.mem_append.mp hc with hc | hc <;> cases s <;> simp [pieces, hc]
  | day channel d =>
    have named : c ∈ channel.toList := hc
    cases s <;> simp [pieces, named]

theorem mem_intercalate {sep c : Char} {ps : List (List Char)} (h : c ∈ [sep].intercalate ps) :
    c = sep ∨ ∃ p ∈ ps, c ∈ p := by
  induction ps using List.twoStepInduction with
  | nil => cases h
  | singleton p =>
    rw [List.intercalate_singleton] at h
    exact .inr ⟨p, List.mem_singleton_self p, h⟩
  | cons_cons p p' ps _ ih =>
    rw [List.intercalate_cons_cons, List.mem_append, List.mem_append, List.mem_singleton] at h
    rcases h with (h | rfl) | h
    · exact .inr ⟨p, List.mem_cons_self, h⟩
    · exact .inl rfl
    · exact (ih p' h).imp_right fun ⟨q, hq, mem⟩ => ⟨q, List.mem_cons_of_mem p hq, mem⟩

theorem mem_intercalate_of_mem {sep c : Char} {ps : List (List Char)} {p : List Char} (hp : p ∈ ps)
    (hc : c ∈ p) : c ∈ [sep].intercalate ps := by
  induction ps using List.twoStepInduction with
  | nil => cases hp
  | singleton q =>
    obtain rfl := List.mem_singleton.mp hp
    rwa [List.intercalate_singleton]
  | cons_cons q q' ps _ ih =>
    rw [List.intercalate_cons_cons, List.mem_append, List.mem_append]
    rcases List.mem_cons.mp hp with rfl | hp
    · exact .inl (.inl hc)
    · exact .inr (ih q' hp)

/-- A character of a path stands in an escaped name, or in any other path as well. -/
theorem mem_path {c : Char} (h : c ∈ (a.target s).path.toList) :
    (∃ d ∈ a.names, c ∈ Service.pathChar d) ∨ Question.isPlain c = true := by
  rw [toList_path] at h
  obtain ⟨d, hd, hc⟩ := List.mem_flatMap.mp h
  rcases mem_intercalate hd with rfl | ⟨p, hp, mem⟩
  · obtain rfl := List.mem_singleton.mp hc
    exact .inr (by decide)
  rcases mem_pieces hp mem with named | fixed
  · exact .inl ⟨d, named, hc⟩
  · refine .inr ?_
    simp only [isFixed, Bool.or_eq_true, beq_iff_eq] at fixed
    obtain escaped | ⟨⟨space, -⟩, itself⟩ := Service.pathChar_cases d
    · exact Service.isPlain_of_mem_escape escaped hc
    · rw [itself, List.mem_singleton] at hc
      exact hc ▸ fixed.resolve_left space

theorem mem_path_of_mem_names {c e : Char} (hc : c ∈ a.names) (he : e ∈ Service.pathChar c) :
    e ∈ (a.target s).path.toList := by
  obtain ⟨p, hp, mem⟩ := exists_piece (s := s) hc
  rw [toList_path]
  exact List.mem_flatMap.mpr ⟨c, mem_intercalate_of_mem hp mem, he⟩

/-- What the paths of a service say of two wishes, and what a library makes of the first. -/
structure ToldApart (s : Service) (frame : Question → Except String Question) (a b : Wish) :
    Prop where
  path_iff : (a.target s).path = (b.target s).path ↔ a = b
  id_iff : (a.target s).id = (b.target s).id ↔ a = b
  plain : ∀ c ∈ (a.target s).path.toList, c ≠ ' ' ∧ c ≠ '#' ∧ c ≠ '?'
  /-- Whatever is sent is the whole path. -/
  whole : ∀ {host port r}, frame (.make host port (a.target s).path) = .ok r →
    r = .make host port (a.target s).path
  /-- Of what cannot stand in a path only the space is escaped: with any other such character in a
  name the path is refused, -/
  refused : ∀ c ∈ a.names, Question.isForbidden c = true → c ≠ ' ' →
    ∀ host port, ∃ why, frame (.make host port (a.target s).path) = .error why
  /-- and without one it is sent, unless it is too long. -/
  sent : (∀ c ∈ a.names, ∀ e ∈ Service.pathChar c, Question.isPlain e = true) →
    (a.target s).path.utf8ByteSize ≤ Question.maxPath → ∀ host port,
      (∀ c ∈ host.toList, Question.isVisible c = true) →
      frame (.make host port (a.target s).path) = .ok (.make host port (a.target s).path)

/-- Within a service, equal paths are those of the same wish, and so are equal identifiers. -/
theorem tells_apart (s : Service) {frame : Question → Except String Question}
    (documented : Question.Documented frame) (ha : a.Valid) (hb : b.Valid) :
    ToldApart s frame a b where
  path_iff := ⟨path_inj ha hb, fun same => by rw [same]⟩
  id_iff := ⟨id_inj ha hb, fun same => by rw [same]⟩
  plain := plain_path s a
  whole := documented.eq_of_ok (isRooted_make s a _ _) (hash_notMem_path s a)
  refused := by
    intro c named forbidden space host port
    have mem : c ∈ (a.target s).path.toList :=
      mem_path_of_mem_names named (Service.mem_pathChar_of_isForbidden forbidden space)
    refine documented.refuses (isRooted_make s a host port) ?_ forbidden
    rwa [beforeMark_make]
  sent := by
    intro names short host port visible
    have plain : ∀ c ∈ (a.target s).path.toList, Question.isPlain c = true := by
      intro c hc
      rcases mem_path hc with ⟨d, named, mem⟩ | plain
      · exact names d named c mem
      · exact plain
    obtain ⟨r, made⟩ := documented.accepts (isRooted_make s a host port) short plain
      (Question.isVisible_of_mem_make visible)
    rw [made, documented.eq_of_ok (isRooted_make s a host port) (hash_notMem_path s a) made]

/-- A user whose name looks like an escape. -/
def percentUser : Wish := .month "a b" "%20" ⟨2020, 1⟩

/-- Everybody on a day of the same month. -/
def fifthDay : Wish := .day "a b" ⟨2020, 1, 5⟩

theorem tells_apart_percentUser :
    Question.Documented Question.framed ∧ percentUser.Valid ∧ fifthDay.Valid ∧
      ToldApart .gempir Question.framed percentUser fifthDay := by
  have month : Date.Exists ⟨2020, 1, 1⟩ := by decide
  have user : percentUser.Valid := ⟨by decide, by decide, month⟩
  have day : fifthDay.Valid := ⟨by decide, by decide⟩
  exact ⟨Question.documented_framed, user, day,
    tells_apart .gempir Question.documented_framed user day⟩

example : (percentUser.target .gempir).path = "/channel/a%20b/user/%2520/2020/1" := by
  decide

/-- A user with an angle bracket in the name. -/
def angleUser : Wish := .month "foo" "a<b" ⟨2020, 1⟩

/-- The angle bracket is not escaped, so no library sends the path. -/
theorem angleUser_not_sent :
    angleUser.Valid ∧ (angleUser.target .gempir).path = "/channel/foo/user/a<b/2020/1" ∧
      ∀ frame, Question.Documented frame → ∀ host port, ∃ why,
        frame (.make host port (angleUser.target .gempir).path) = .error why := by
  have month : Date.Exists ⟨2020, 1, 1⟩ := by decide
  refine ⟨⟨by decide, by decide, month⟩, by decide, ?_⟩
  intro frame documented host port
  have mem : '<' ∈ (angleUser.target .gempir).path.toList := by decide
  refine documented.refuses (isRooted_make .gempir angleUser host port) ?_
    (show Question.isForbidden '<' = true by decide)
  rwa [beforeMark_make]

end Wish

end Scrollback
