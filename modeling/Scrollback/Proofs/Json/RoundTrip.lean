/-
JSON that has been written is read back (`JsonValue.parse?_indented`).  A written value is read off
the front of the bytes whatever follows it, as long as a number cannot go on there
(`value_write`); a value is no longer than its bytes, so there is fuel enough.

Only numbers that are written as integers are read back: points and exponents are not kept.
-/
import Mathlib
import Scrollback.Json.Reader
import Scrollback.Json.Writer

namespace Scrollback

/-- A value all of whose numbers are written as integers. -/
inductive JsonValue.Whole : JsonValue → Prop
  | null : Whole .null
  | bool (b : Bool) : Whole (.bool b)
  | number (negative : Bool) (n : Nat) : Whole (.number ⟨negative, n, 0, 0, true⟩)
  | string (bytes : List UInt8) : Whole (.string bytes)
  | list {items : List JsonValue} (h : ∀ x ∈ items, Whole x) : Whole (.list items)
  | object {members : List (List UInt8 × JsonValue)} (h : ∀ m ∈ members, Whole m.2) :
      Whole (.object members)

namespace Json

open JsonValue (escaped quote plain numeral newline write writeItems writeMembers Whole)

/-! ### Strings -/

theorem hexFour_append {bytes rest : List UInt8} {n : Nat} (h : hexFour bytes = some (n, [])) :
    hexFour (bytes ++ rest) = some (n, rest) := by
  match bytes, h with
  | [a, b, c, d], h =>
    simp only [hexFour, Option.bind_eq_bind, Option.bind_eq_some_iff] at h
    obtain ⟨x, hx, y, hy, z, hz, w, hw, h⟩ := h
    obtain rfl := (Prod.mk.inj (Option.some.inj h)).1
    simp [hexFour, hx, hy, hz, hw]
  | a :: b :: c :: d :: e :: more, h =>
    simp only [hexFour, Option.bind_eq_bind, Option.bind_eq_some_iff] at h
    obtain ⟨x, hx, y, hy, z, hz, w, hw, h⟩ := h
    cases h

/-- A byte of a string is written as itself, by a letter or by its number. -/
theorem escaped_cases (b : UInt8) :
    (escaped b = [b] ∧ b ≠ ascii '"' ∧ b ≠ ascii '\\' ∧ ¬b < 0x20) ∨
    (∃ e, escaped b = [ascii '\\', e] ∧ e ≠ ascii 'u' ∧ letter? e = some b) ∨
      ∃ digits, escaped b = ascii '\\' :: ascii 'u' :: digits ∧
        hexFour digits = some (b.toNat, []) ∧ b.toNat < 0x20 := by
  have table : ∀ n : Fin 256,
      (escaped (UInt8.ofNat n) = [UInt8.ofNat n] ∧ UInt8.ofNat n ≠ ascii '"' ∧
        UInt8.ofNat n ≠ ascii '\\' ∧ ¬UInt8.ofNat n < 0x20) ∨
      (escaped (UInt8.ofNat n) = [ascii '\\', (escaped (UInt8.ofNat n)).getD 1 0] ∧
        (escaped (UInt8.ofNat n)).getD 1 0 ≠ ascii 'u' ∧
        letter? ((escaped (UInt8.ofNat n)).getD 1 0) = some (UInt8.ofNat n)) ∨
      escaped (UInt8.ofNat n) =
          ascii '\\' :: ascii 'u' :: (escaped (UInt8.ofNat n)).drop 2 ∧
        hexFour ((escaped (UInt8.ofNat n)).drop 2) = some ((UInt8.ofNat n).toNat, []) ∧
        (UInt8.ofNat n).toNat < 0x20 := by
    decide +kernel
  have number : UInt8.ofNat b.toNat = b := UInt8.ofNat_toNat
  have case := table ⟨b.toNat, b.toNat_lt⟩
  rw [number] at case
  rcases case with self | letter | digits
  · exact .inl self
  · exact .inr (.inl ⟨_, letter⟩)
  · exact .inr (.inr ⟨_, digits⟩)

/-- One byte of a string is read. -/
theorem string_escaped (fuel : Nat) (done : List UInt8) (b : UInt8) (rest : List UInt8) :
    string (fuel + 1) done (escaped b ++ rest) = string fuel (b :: done) rest := by
  have quote_ne : ascii '\\' ≠ ascii '"' := by decide
  rcases escaped_cases b with
    ⟨self, noQuote, noSlash, noControl⟩ | ⟨e, letter, noNumber, spelled⟩ | ⟨ds, digits, four, small⟩
  · rw [self, List.cons_append, List.nil_append, string.eq_def]
    dsimp only
    rw [if_neg noQuote, if_neg noSlash, if_neg noControl]
  · rw [letter, List.cons_append, string.eq_def]
    dsimp only [List.cons_append]
    rw [if_neg quote_ne, if_pos rfl, if_neg noNumber, spelled]
    rfl
  · have spelled : spell b.toNat = [b] := by
      rw [spell, if_pos (by omega), UInt8.ofNat_toNat]
    have read : numbered (ds ++ rest) = some ([b], rest) := by
      simp only [numbered, hexFour_append four, Option.bind_eq_bind, Option.bind_some]
      rw [if_neg (by omega), spelled]
      rfl
    rw [digits, List.cons_append, string.eq_def]
    dsimp only [List.cons_append]
    rw [if_neg quote_ne, if_pos rfl, if_pos rfl, read]
    rfl

/-- A string is read up to its closing quote. -/
theorem string_flatMap_escaped {bytes : List UInt8} {fuel : Nat} (h : bytes.length < fuel)
    (done rest : List UInt8) :
    string fuel done (bytes.flatMap escaped ++ ascii '"' :: rest) =
      some (done.reverse ++ bytes, rest) := by
  induction bytes generalizing fuel done with
  | nil =>
    obtain ⟨fuel, rfl⟩ := Nat.exists_eq_add_of_lt h
    simp [string]
  | cons b bytes ih =>
    obtain ⟨fuel, rfl⟩ := Nat.exists_eq_succ_of_ne_zero (Nat.ne_of_gt (Nat.zero_lt_of_lt h))
    rw [List.flatMap_cons, List.append_assoc, string_escaped,
      ih (Nat.lt_of_succ_lt_succ h) (b :: done)]
    simp

theorem length_le_flatMap_escaped (bytes : List UInt8) :
    bytes.length ≤ (bytes.flatMap escaped).length := by
  induction bytes with
  | nil => exact Nat.le_refl _
  | cons b bytes ih =>
    have one : 1 ≤ (escaped b).length := by
      rcases escaped_cases b with ⟨self, -⟩ | ⟨e, letter, -⟩ | ⟨ds, digits, -⟩
      · simp [self]
      · simp [letter]
      · simp [digits]
    simp only [List.flatMap_cons, List.length_append, List.length_cons]
    omega

theorem quote_eq (bytes : List UInt8) :
    quote bytes = ascii '"' :: (bytes.flatMap escaped ++ [ascii '"']) := rfl

/-- A string in quotes is read, the first of these being read already. -/
theorem string_quote {bytes : List UInt8} {fuel : Nat} (h : (quote bytes).length ≤ fuel + 1)
    (rest : List UInt8) :
    ∃ tail, quote bytes ++ rest = ascii '"' :: tail ∧
      string fuel [] tail = some (bytes, rest) := by
  have short := length_le_flatMap_escaped bytes
  rw [quote_eq, List.length_cons, List.length_append, List.length_singleton] at h
  refine ⟨bytes.flatMap escaped ++ ascii '"' :: rest, by simp [quote_eq], ?_⟩
  rw [string_flatMap_escaped (by omega)]
  rfl

/-! ### Numbers -/

theorem exists_digit {c : Char} (h : c.isDigit = true) : ∃ k < 10, c = Nat.digitChar k := by
  have bounds : '0'.val ≤ c.val ∧ c.val ≤ '9'.val := by
    simpa [Char.isDigit] using h
  have low : 48 ≤ c.toNat := bounds.1
  have high : c.toNat ≤ 57 := bounds.2
  refine ⟨c.toNat - 48, by omega, ?_⟩
  have table : ∀ n, 48 ≤ n → n ≤ 57 → Char.ofNat n = Nat.digitChar (n - 48) := by
    intro n hn hm
    interval_cases n <;> rfl
  rw [← table _ low high, Char.ofNat_toNat]

theorem plain_digits (n : Nat) : plain (digits n) = (digits n).map ascii := by
  rw [plain, bytesOf]
  have each : ∀ c ∈ digits n, String.utf8EncodeChar c = [ascii c] := by
    intro c hc
    obtain ⟨k, hk, rfl⟩ := exists_digit (Nat.isDigit_of_mem_toDigits (by decide) (by decide) hc)
    have table : ∀ k < 10, String.utf8EncodeChar (Nat.digitChar k) = [ascii (Nat.digitChar k)] := by
      decide
    exact table k hk
  rw [List.flatMap_congr each]
  exact List.flatMap_pure_eq_map ascii (digits n)

theorem isDigit_of_mem {n : Nat} {b : UInt8} (h : b ∈ plain (digits n)) : isDigit b = true := by
  rw [plain_digits] at h
  obtain ⟨c, hc, rfl⟩ := List.mem_map.mp h
  obtain ⟨k, hk, rfl⟩ := exists_digit (Nat.isDigit_of_mem_toDigits (by decide) (by decide) hc)
  have table : ∀ k < 10, isDigit (ascii (Nat.digitChar k)) = true := by decide
  exact table k hk

theorem valueOf_digits (n : Nat) : valueOf (plain (digits n)) = n := by
  conv_rhs => rw [← value_digits n]
  rw [plain_digits, valueOf, List.foldl_map, Scrollback.value, Nat.ofDigitChars_eq_foldl]
  apply List.foldl_ext
  intro m c hc
  obtain ⟨k, hk, rfl⟩ := exists_digit (Nat.isDigit_of_mem_toDigits (by decide) (by decide) hc)
  have table : ∀ k < 10, (ascii (Nat.digitChar k)).toNat - 48 =
      (Nat.digitChar k).toNat - '0'.toNat := by
    decide
  rw [table k hk, Nat.mul_comm]

/-- Only zero begins with a zero. -/
theorem digits_of_zero {n : Nat} {cs : List Char} (h : digits n = '0' :: cs) : n = 0 := by
  induction n using Nat.strong_induction_on generalizing cs with
  | _ n ih =>
    rw [digits, Nat.toDigits_eq_if (by decide)] at h
    split at h
    · next small =>
      have table : ∀ k < 10, Nat.digitChar k = '0' → k = 0 := by decide
      exact table n small (List.cons.inj h).1
    · next large =>
      rcases upper : Nat.toDigits 10 (n / 10) with - | ⟨c, ds⟩
      · exact absurd upper Nat.toDigits_ne_nil
      · rw [upper, List.cons_append] at h
        obtain ⟨rfl, -⟩ := List.cons.inj h
        have := ih (n / 10) (by omega) upper
        omega

/-- A number cannot go on with the byte. -/
def EndsNumber (b : UInt8) : Prop :=
  isDigit b = false ∧ b ≠ ascii '.' ∧ b ≠ ascii 'e' ∧ b ≠ ascii 'E'

instance (b : UInt8) : Decidable (EndsNumber b) :=
  inferInstanceAs (Decidable (_ ∧ _))

/-- A number cannot go on with the bytes. -/
def NumberEnds (rest : List UInt8) : Prop :=
  ∀ b ∈ rest.head?, EndsNumber b

theorem NumberEnds.cons {b : UInt8} (h : EndsNumber b) (rest : List UInt8) :
    NumberEnds (b :: rest) := by
  intro c hc
  cases hc
  exact h

theorem digitRun_digits (n : Nat) {rest : List UInt8} (ends : NumberEnds rest) :
    digitRun (plain (digits n) ++ rest) = some (plain (digits n), rest) := by
  have found : (plain (digits n) ++ rest).takeWhile isDigit = plain (digits n) := by
    rw [List.takeWhile_append_of_pos fun b hb => isDigit_of_mem hb]
    cases rest with
    | nil => simp
    | cons b rest => simp [(ends b rfl).1]
  have some : (plain (digits n)).isEmpty = false := by
    rw [plain_digits, List.isEmpty_eq_false_iff, Ne, List.map_eq_nil_iff]
    exact Nat.toDigits_ne_nil
  simp only [digitRun, found, some]
  simp

theorem wholePart_digits (n : Nat) {rest : List UInt8} (ends : NumberEnds rest) :
    wholePart (plain (digits n) ++ rest) = some (plain (digits n), rest) := by
  have run := digitRun_digits n ends
  rcases list : digits n with - | ⟨c, cs⟩
  · exact absurd list Nat.toDigits_ne_nil
  · by_cases zero : ascii c = ascii '0'
    · have c_zero : c = '0' := by
        have mem : c ∈ digits n := by
          rw [list]
          exact List.mem_cons_self
        obtain ⟨k, hk, rfl⟩ :=
          exists_digit (Nat.isDigit_of_mem_toDigits (by decide) (by decide) mem)
        have table : ∀ k < 10, ascii (Nat.digitChar k) = ascii '0' → Nat.digitChar k = '0' := by
          decide
        exact table k hk zero
      obtain rfl := c_zero
      obtain rfl := digits_of_zero list
      obtain rfl : [] = cs := (List.cons.inj list).2
      rfl
    · rw [← list, plain_digits, list, List.map_cons, List.cons_append, wholePart, if_neg zero,
        ← List.cons_append, ← List.map_cons, ← list, ← plain_digits, run]

theorem expect_self (c : Char) (rest : List UInt8) : expect c (ascii c :: rest) = some rest :=
  if_pos rfl

theorem expect_none {c : Char} {rest : List UInt8} (h : ∀ b ∈ rest.head?, b ≠ ascii c) :
    expect c rest = none := by
  cases rest with
  | nil => rfl
  | cons b rest => rw [expect, if_neg (h b rfl)]

/-- A number is read up to where it cannot go on. -/
theorem number_numeral (negative : Bool) (n : Nat) {rest : List UInt8} (ends : NumberEnds rest) :
    number (numeral ⟨negative, n, 0, 0, true⟩ ++ rest) =
      some (⟨negative, n, 0, 0, true⟩, rest) := by
  have sign : minus (numeral ⟨negative, n, 0, 0, true⟩ ++ rest) =
      (negative, plain (digits n) ++ rest) := by
    cases negative with
    | true => rfl
    | false =>
      show minus (plain (digits n) ++ rest) = _
      rcases list : plain (digits n) with - | ⟨b, bs⟩
      · rw [plain_digits, List.map_eq_nil_iff] at list
        exact absurd list Nat.toDigits_ne_nil
      · have digit : isDigit b = true := isDigit_of_mem (list ▸ List.mem_cons_self)
        rw [List.cons_append, minus, if_neg]
        rintro rfl
        cases digit
  have fraction : fractionPart rest = some (none, rest) := by
    rw [fractionPart, expect_none fun b hb => (ends b hb).2.1]
  have exponent : exponentPart rest = some (none, rest) := by
    rw [exponentPart, expect_none fun b hb => (ends b hb).2.2.1,
      expect_none fun b hb => (ends b hb).2.2.2]
    rfl
  simp only [number, sign, wholePart_digits n ends, fraction, exponent, Option.bind_eq_bind,
    Option.bind_some]
  simp [valueOf_digits]

/-! ### White space -/

/-- Bytes that say nothing between the parts of a value. -/
def Blank (bytes : List UInt8) : Prop :=
  ∀ b ∈ bytes, b = ascii ' ' ∨ b = ascii '\n'

theorem skipSpace_append {gap : List UInt8} (h : Blank gap) (rest : List UInt8) :
    skipSpace (gap ++ rest) = skipSpace rest := by
  apply List.dropWhile_append_of_pos
  intro b hb
  rcases h b hb with rfl | rfl
  · decide
  · decide

/-- A byte that begins a value, or stands between its parts, is no white space. -/
def Solid (b : UInt8) : Prop :=
  b ≠ ascii ' ' ∧ b ≠ ascii '\t' ∧ b ≠ ascii '\n' ∧ b ≠ ascii '\r'

instance (b : UInt8) : Decidable (Solid b) :=
  inferInstanceAs (Decidable (_ ∧ _))

theorem skipSpace_cons {b : UInt8} (h : Solid b) (rest : List UInt8) :
    skipSpace (b :: rest) = b :: rest := by
  rw [skipSpace, List.dropWhile_cons_of_neg]
  simpa [Solid, not_or, and_assoc] using h

theorem skipSpace_gap {gap : List UInt8} (h : Blank gap) {b : UInt8} (hb : Solid b)
    (rest : List UInt8) : skipSpace (gap ++ b :: rest) = b :: rest := by
  rw [skipSpace_append h, skipSpace_cons hb]

theorem NumberEnds.gap {gap : List UInt8} (h : Blank gap) {b : UInt8} (hb : EndsNumber b)
    (rest : List UInt8) : NumberEnds (gap ++ b :: rest) := by
  cases gap with
  | nil => exact .cons hb rest
  | cons c gap =>
    refine .cons ?_ (gap ++ b :: rest)
    rcases h c List.mem_cons_self with rfl | rfl
    · decide
    · decide

/-! ### Values -/

theorem exists_numeral (n : JsonNumber) :
    ∃ b tail, numeral n = b :: tail ∧ (b = ascii '-' ∨ isDigit b = true) := by
  obtain ⟨negative, mantissa, _, _, _⟩ := n
  cases negative with
  | true => exact ⟨_, _, rfl, .inl rfl⟩
  | false =>
    rcases list : plain (digits mantissa) with - | ⟨b, tail⟩
    · rw [plain_digits, List.map_eq_nil_iff] at list
      exact absurd list Nat.toDigits_ne_nil
    · exact ⟨b, tail, list, .inr (isDigit_of_mem (list ▸ List.mem_cons_self))⟩

/-- White space between the parts of a value, by their level, and after a colon. -/
structure Spacing where
  breakTo : Nat → List UInt8
  gap : List UInt8
  blank_breakTo : ∀ level, Blank (breakTo level)
  blank_gap : Blank gap

namespace Spacing

variable (s : Spacing)

/-- The bytes of a value. -/
abbrev bytes (level : Nat) (v : JsonValue) : List UInt8 :=
  write s.breakTo (ascii ':' :: s.gap) level v

/-- The bytes of the items after the first. -/
abbrev itemBytes (level : Nat) (xs : List JsonValue) : List UInt8 :=
  writeItems s.breakTo (ascii ':' :: s.gap) level xs

/-- The bytes of the members after the first. -/
abbrev memberBytes (level : Nat) (ms : List (List UInt8 × JsonValue)) : List UInt8 :=
  writeMembers s.breakTo (ascii ':' :: s.gap) level ms

/-- A value begins with a byte that closes no list and is no white space. -/
theorem exists_bytes (level : Nat) (v : JsonValue) :
    ∃ b tail, s.bytes level v = b :: tail ∧ Solid b ∧ b ≠ ascii ']' := by
  cases v with
  | null => exact ⟨_, _, rfl, by decide⟩
  | bool b =>
    cases b with
    | false => exact ⟨_, _, rfl, by decide⟩
    | true => exact ⟨_, _, rfl, by decide⟩
  | number n =>
    obtain ⟨b, tail, list, sign⟩ := exists_numeral n
    refine ⟨b, tail, list, ?_⟩
    rcases sign with rfl | digit
    · decide
    · refine ⟨⟨?_, ?_, ?_, ?_⟩, ?_⟩ <;> (rintro rfl; cases digit)
  | string bytes => exact ⟨_, _, rfl, by decide⟩
  | list items =>
    cases items with
    | nil => exact ⟨_, _, rfl, by decide⟩
    | cons x xs => exact ⟨_, _, rfl, by decide⟩
  | object members =>
    cases members with
    | nil => exact ⟨_, _, rfl, by decide⟩
    | cons m ms => exact ⟨_, _, rfl, by decide⟩

/-- A value is read off the front of the bytes, whatever follows it. -/
def Reads (v : JsonValue) : Prop :=
  ∀ level fuel rest, (s.bytes level v).length ≤ fuel → NumberEnds rest →
    value fuel (s.bytes level v ++ rest) = some (v, rest)

/-- The items after the first, and the end of the list. -/
theorem numberEnds_itemBytes (level k : Nat) (xs : List JsonValue) (rest : List UInt8) :
    NumberEnds (s.itemBytes level xs ++ (s.breakTo k ++ ascii ']' :: rest)) := by
  cases xs with
  | nil => exact .gap (s.blank_breakTo k) (by decide) rest
  | cons x xs => exact .cons (by decide) _

theorem items_itemBytes {x : JsonValue} {xs : List JsonValue} (h : ∀ y ∈ x :: xs, s.Reads y)
    (level k fuel : Nat)
    (long : (s.bytes level x).length + (s.itemBytes level xs).length < fuel) (rest : List UInt8) :
    items fuel (s.bytes level x ++ (s.itemBytes level xs ++ (s.breakTo k ++ ascii ']' :: rest))) =
      some (x :: xs, rest) := by
  induction xs generalizing x fuel with
  | nil =>
    obtain ⟨fuel, rfl⟩ := Nat.exists_eq_succ_of_ne_zero (Nat.ne_of_gt (Nat.zero_lt_of_lt long))
    have first := h x List.mem_cons_self level fuel _ (by omega)
      (s.numberEnds_itemBytes level k [] rest)
    rw [show s.itemBytes level [] = [] from rfl, List.nil_append] at first ⊢
    simp only [items, first, Option.bind_eq_bind, Option.bind_some]
    rw [skipSpace_gap (s.blank_breakTo k) (by decide)]
    rfl
  | cons y ys ih =>
    -- after the first item comes a comma, and from there on it is a shorter list
    obtain ⟨fuel, rfl⟩ := Nat.exists_eq_succ_of_ne_zero (Nat.ne_of_gt (Nat.zero_lt_of_lt long))
    have first := h x List.mem_cons_self level fuel _ (by omega)
      (s.numberEnds_itemBytes level k (y :: ys) rest)
    have comma : s.itemBytes level (y :: ys) =
        ascii ',' :: (s.breakTo level ++ (s.bytes level y ++ s.itemBytes level ys)) := by
      simp [itemBytes, writeItems]
      rfl
    have others := ih (fun z hz => h z (List.mem_cons_of_mem _ hz)) fuel (by
      rw [comma] at long
      simp only [List.length_cons, List.length_append] at long
      omega)
    obtain ⟨b, tail, head, solid, -⟩ := s.exists_bytes level y
    have next : skipSpace (s.breakTo level ++ (s.bytes level y ++ (s.itemBytes level ys ++
        (s.breakTo k ++ ascii ']' :: rest)))) = s.bytes level y ++ (s.itemBytes level ys ++
        (s.breakTo k ++ ascii ']' :: rest)) := by
      rw [head, List.cons_append, skipSpace_gap (s.blank_breakTo level) solid]
    simp only [items, first, Option.bind_eq_bind, Option.bind_some]
    rw [comma, List.cons_append, skipSpace_cons (by decide)]
    show (items fuel (skipSpace _)).bind _ = _
    simp only [List.append_assoc]
    rw [next, others]
    rfl

/-- The members after the first, and the end of the object. -/
theorem numberEnds_memberBytes (level k : Nat) (ms : List (List UInt8 × JsonValue))
    (rest : List UInt8) :
    NumberEnds (s.memberBytes level ms ++ (s.breakTo k ++ ascii '\x7d' :: rest)) := by
  cases ms with
  | nil => exact .gap (s.blank_breakTo k) (by decide) rest
  | cons m ms => exact .cons (by decide) _

/-- A name and its value. -/
def memberOf (level : Nat) (m : List UInt8 × JsonValue) : List UInt8 :=
  quote m.1 ++ (ascii ':' :: s.gap ++ s.bytes level m.2)

/-- A member is read up to what follows it. -/
theorem exists_memberOf {m : List UInt8 × JsonValue} (h : s.Reads m.2) (level fuel : Nat)
    (long : (s.memberOf level m).length ≤ fuel) {rest : List UInt8} (ends : NumberEnds rest) :
    ∃ tail after, s.memberOf level m ++ rest = ascii '"' :: tail ∧
      string fuel [] tail = some (m.1, ascii ':' :: after) ∧
      value fuel (skipSpace after) = some (m.2, rest) := by
  simp only [memberOf, List.length_append, List.length_cons] at long
  obtain ⟨tail, open_, name⟩ := @string_quote m.1 fuel (by omega)
    (ascii ':' :: (s.gap ++ (s.bytes level m.2 ++ rest)))
  refine ⟨tail, _, ?_, name, ?_⟩
  · rw [← open_]
    simp [memberOf]
  · obtain ⟨b, cs, head, solid, -⟩ := s.exists_bytes level m.2
    have skipped : skipSpace (s.gap ++ (s.bytes level m.2 ++ rest)) = s.bytes level m.2 ++ rest := by
      rw [head, List.cons_append, skipSpace_gap s.blank_gap solid]
    rw [skipped]
    exact h level fuel rest (by omega) ends

theorem members_memberBytes {m : List UInt8 × JsonValue} {ms : List (List UInt8 × JsonValue)}
    (h : ∀ n ∈ m :: ms, s.Reads n.2) (level k fuel : Nat)
    (long : (s.memberOf level m).length + (s.memberBytes level ms).length < fuel)
    (rest : List UInt8) :
    members fuel (s.memberOf level m ++ (s.memberBytes level ms ++
      (s.breakTo k ++ ascii '\x7d' :: rest))) = some (m :: ms, rest) := by
  induction ms generalizing m fuel with
  | nil =>
    obtain ⟨fuel, rfl⟩ := Nat.exists_eq_succ_of_ne_zero (Nat.ne_of_gt (Nat.zero_lt_of_lt long))
    obtain ⟨tail, after, opens, name, first⟩ :=
      s.exists_memberOf (h m List.mem_cons_self) level fuel (by omega)
        (s.numberEnds_memberBytes level k [] rest)
    have colon : skipSpace (ascii ':' :: after) = ascii ':' :: after := skipSpace_cons (by decide) _
    rw [opens]
    have last : s.memberBytes level [] = [] := rfl
    simp only [members, expect_self, name, colon, first, last, List.nil_append,
      Option.bind_eq_bind, Option.bind_some]
    rw [skipSpace_gap (s.blank_breakTo k) (by decide)]
    rfl
  | cons n ns ih =>
    -- as for items, but what follows the white space is a quote
    obtain ⟨fuel, rfl⟩ := Nat.exists_eq_succ_of_ne_zero (Nat.ne_of_gt (Nat.zero_lt_of_lt long))
    obtain ⟨tail, after, opens, name, first⟩ :=
      s.exists_memberOf (h m List.mem_cons_self) level fuel (by omega)
        (s.numberEnds_memberBytes level k (n :: ns) rest)
    have comma : s.memberBytes level (n :: ns) =
        ascii ',' :: (s.breakTo level ++ (s.memberOf level n ++ s.memberBytes level ns)) := by
      simp [memberBytes, writeMembers, memberOf]
      rfl
    have others := ih (fun z hz => h z (List.mem_cons_of_mem _ hz)) fuel (by
      rw [comma] at long
      simp only [List.length_cons, List.length_append] at long
      omega)
    have next : skipSpace (s.breakTo level ++ (s.memberOf level n ++ (s.memberBytes level ns ++
        (s.breakTo k ++ ascii '\x7d' :: rest)))) = s.memberOf level n ++ (s.memberBytes level ns ++
        (s.breakTo k ++ ascii '\x7d' :: rest)) := by
      rw [memberOf, quote_eq, List.cons_append, List.cons_append,
        skipSpace_gap (s.blank_breakTo level) (by decide)]
    have colon : skipSpace (ascii ':' :: after) = ascii ':' :: after := skipSpace_cons (by decide) _
    rw [opens]
    simp only [members, expect_self, name, colon, first, Option.bind_eq_bind, Option.bind_some]
    rw [comma, List.cons_append, skipSpace_cons (by decide)]
    show (members fuel (skipSpace _)).bind _ = _
    simp only [List.append_assoc]
    rw [next, others]
    rfl

/-- What begins like a number is read as a number. -/
theorem value_of_sign {b : UInt8} (h : b = ascii '-' ∨ isDigit b = true) (fuel : Nat)
    (rest : List UInt8) : value (fuel + 1) (b :: rest) =
      (number (b :: rest)).map fun (n, rest) => (.number n, rest) := by
  have other : ∀ c ∈ [ascii '"', ascii '[', ascii '\x7b', ascii 'n', ascii 't', ascii 'f'],
      b ≠ c := by
    rintro c hc rfl
    rcases h with rfl | digit
    · revert hc
      decide
    · simp only [List.mem_cons, List.not_mem_nil, or_false] at hc
      rcases hc with rfl | rfl | rfl | rfl | rfl | rfl <;> cases digit
  simp only [List.forall_mem_cons] at other
  obtain ⟨quote, list, object, null, yes, no, -⟩ := other
  rw [Json.value, if_neg quote, if_neg list, if_neg object, if_neg null, if_neg yes, if_neg no]

/-- There is fuel to begin with. -/
theorem value_list (fuel : Nat) (rest : List UInt8) :
    value (fuel + 1) (ascii '[' :: rest) =
      match expect ']' (skipSpace rest) with
      | some rest => some (.list [], rest)
      | none => (items fuel (skipSpace rest)).map fun (xs, rest) => (.list xs, rest) := rfl

theorem value_object (fuel : Nat) (rest : List UInt8) :
    value (fuel + 1) (ascii '\x7b' :: rest) =
      match expect '\x7d' (skipSpace rest) with
      | some rest => some (.object [], rest)
      | none => (Json.members fuel (skipSpace rest)).map fun (ms, rest) => (.object ms, rest) := rfl

theorem reads_of_succ {v : JsonValue}
    (h : ∀ level fuel rest, (s.bytes level v).length ≤ fuel + 1 → NumberEnds rest →
      value (fuel + 1) (s.bytes level v ++ rest) = some (v, rest)) : s.Reads v := by
  intro level fuel rest long ends
  obtain ⟨b, tail, head, -⟩ := s.exists_bytes level v
  cases fuel with
  | zero =>
    rw [head] at long
    cases long
  | succ fuel => exact h level fuel rest long ends

theorem reads_number (negative : Bool) (n : Nat) :
    s.Reads (.number ⟨negative, n, 0, 0, true⟩) := by
  apply s.reads_of_succ
  intro level fuel rest _ ends
  obtain ⟨b, tail, list, sign⟩ := exists_numeral ⟨negative, n, 0, 0, true⟩
  have read := number_numeral negative n ends
  show value (fuel + 1) (numeral _ ++ rest) = _
  rw [list, List.cons_append] at read ⊢
  rw [value_of_sign sign, read]
  rfl

theorem reads_string (bytes : List UInt8) : s.Reads (.string bytes) := by
  apply s.reads_of_succ
  intro level fuel rest long _
  obtain ⟨tail, opens, read⟩ := string_quote long rest
  show value (fuel + 1) (quote bytes ++ rest) = _
  rw [opens]
  show (string fuel [] tail).map _ = _
  rw [read]
  rfl

theorem reads_list {xs : List JsonValue} (h : ∀ x ∈ xs, s.Reads x) : s.Reads (.list xs) := by
  apply s.reads_of_succ
  intro level fuel rest long _
  cases xs with
  | nil => rfl
  | cons x xs =>
    obtain ⟨b, tail, head, solid, noEnd⟩ := s.exists_bytes (level + 1) x
    have opens : s.bytes level (.list (x :: xs)) ++ rest = ascii '[' ::
        (s.breakTo (level + 1) ++ (s.bytes (level + 1) x ++ (s.itemBytes (level + 1) xs ++
          (s.breakTo level ++ ascii ']' :: rest)))) := by
      simp [bytes, write]
      rfl
    have skipped : skipSpace (s.breakTo (level + 1) ++ (s.bytes (level + 1) x ++
        (s.itemBytes (level + 1) xs ++ (s.breakTo level ++ ascii ']' :: rest)))) =
        s.bytes (level + 1) x ++ (s.itemBytes (level + 1) xs ++
          (s.breakTo level ++ ascii ']' :: rest)) := by
      rw [head, List.cons_append, skipSpace_gap (s.blank_breakTo _) solid]
    -- the list is not taken for an empty one
    have more : expect ']' (s.bytes (level + 1) x ++ (s.itemBytes (level + 1) xs ++
        (s.breakTo level ++ ascii ']' :: rest))) = none := by
      rw [head, List.cons_append, expect, if_neg noEnd]
    have size := congrArg List.length opens
    simp only [List.length_cons, List.length_append] at size
    have read := s.items_itemBytes h (level + 1) level fuel (by omega) rest
    rw [opens, value_list, skipped, more]
    dsimp only
    rw [read]
    rfl

theorem reads_object {ms : List (List UInt8 × JsonValue)} (h : ∀ m ∈ ms, s.Reads m.2) :
    s.Reads (.object ms) := by
  apply s.reads_of_succ
  intro level fuel rest long _
  cases ms with
  | nil => rfl
  | cons m ms =>
    have opens : s.bytes level (.object (m :: ms)) ++ rest = ascii '\x7b' ::
        (s.breakTo (level + 1) ++ (s.memberOf (level + 1) m ++ (s.memberBytes (level + 1) ms ++
          (s.breakTo level ++ ascii '\x7d' :: rest)))) := by
      simp [bytes, write, memberOf]
      rfl
    have skipped : skipSpace (s.breakTo (level + 1) ++ (s.memberOf (level + 1) m ++
        (s.memberBytes (level + 1) ms ++ (s.breakTo level ++ ascii '\x7d' :: rest)))) =
        s.memberOf (level + 1) m ++ (s.memberBytes (level + 1) ms ++
          (s.breakTo level ++ ascii '\x7d' :: rest)) := by
      rw [memberOf, quote_eq, List.cons_append, List.cons_append,
        skipSpace_gap (s.blank_breakTo _) (by decide)]
    -- a member begins with a quote, so the object is not taken for an empty one
    have more : expect '\x7d' (s.memberOf (level + 1) m ++ (s.memberBytes (level + 1) ms ++
        (s.breakTo level ++ ascii '\x7d' :: rest))) = none := by
      rw [memberOf, quote_eq, List.cons_append, List.cons_append, expect, if_neg (by decide)]
    have size := congrArg List.length opens
    simp only [List.length_cons, List.length_append] at size
    have read := s.members_memberBytes h (level + 1) level fuel (by omega) rest
    rw [opens, value_object, skipped, more]
    dsimp only
    rw [read]
    rfl

/-- Every written value is read. -/
theorem reads {v : JsonValue} (whole : v.Whole) : s.Reads v := by
  induction whole with
  | null => exact s.reads_of_succ fun _ _ _ _ _ => rfl
  | bool b =>
    apply s.reads_of_succ
    intro level fuel rest _ _
    cases b with
    | false => rfl
    | true => rfl
  | number negative n => exact s.reads_number negative n
  | string bytes => exact s.reads_string bytes
  | list _ ih => exact s.reads_list ih
  | object _ ih => exact s.reads_object ih

end Spacing

/-- Every part on a line of its own. -/
def lines : Spacing where
  breakTo := newline
  gap := [ascii ' ']
  blank_breakTo := by
    intro level b hb
    rcases List.mem_cons.mp hb with rfl | hb
    · exact .inr rfl
    · exact .inl (List.eq_of_mem_replicate hb)
  blank_gap := by
    intro b hb
    exact .inl (List.mem_singleton.mp hb)

end Json

/-- What is written is what is read. -/
theorem JsonValue.parse?_indented {v : JsonValue} (whole : v.Whole) :
    parse? v.indented = some v := by
  obtain ⟨b, tail, head, solid, -⟩ := Json.lines.exists_bytes 0 v
  have first : Json.skipSpace v.indented = v.indented := by
    show Json.skipSpace (Json.lines.bytes 0 v) = Json.lines.bytes 0 v
    rw [head, Json.skipSpace_cons solid]
  have read := Json.lines.reads whole 0 (2 * v.indented.length + 1) []
    (show v.indented.length ≤ _ by omega) (by rintro _ ⟨⟩)
  rw [List.append_nil] at read
  change Json.value _ v.indented = _ at read
  rw [parse?, first, read]
  rfl

end Scrollback
