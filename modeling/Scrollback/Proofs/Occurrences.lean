/-
Searching for a text.

Occurrences are counted in bytes, and a byte of one character may be one of another as well.  Still
no text is found inside of a character, because what is cut out of a text and is itself a text lies
between two characters (`take_drop_utf8_iff`).  So what is counted are places between characters.
Letters in either case are compared by lower-casing both sides first, which changes no place, as it
works byte by byte (`utf8_lowered`).

Main statement: `finds_ofText`.
-/
import Scrollback.Matcher
import Scrollback.Proofs.Text

namespace Scrollback

/-! ### Texts in the bytes of texts -/

theorem length_utf8_pos {s : String} (some : s ≠ "") : 0 < (utf8 s).length := by
  rw [length_utf8]
  exact Nat.pos_of_ne_zero fun none => some (String.utf8ByteSize_eq_zero_iff.mp none)

/-- The bytes of a text that is not empty are found in those of another one just where the text is
found in the other. -/
theorem take_drop_utf8_iff {needle text : String} (some : needle ≠ "") (k : Nat) :
    ((utf8 text).drop k).take (utf8 needle).length = utf8 needle ↔
      ∃ before after, text = before ++ needle ++ after ∧ k = before.utf8ByteSize := by
  constructor
  · intro found
    have pos := length_utf8_pos some
    have room : k + (utf8 needle).length ≤ text.utf8ByteSize := by
      have long := congrArg List.length found
      rw [List.length_take, List.length_drop, length_utf8 text] at long
      omega
    -- the bytes are those of a text, so they begin and end between characters
    have cut : text.toByteArray.extract k (k + (utf8 needle).length) = needle.toByteArray := by
      apply ByteArray.ext
      apply Array.ext'
      rw [ByteArray.data_extract, Array.toList_extract, List.extract_eq_take_drop,
        Nat.add_sub_cancel_left]
      exact found
    have valid : (text.toByteArray.extract k (k + (utf8 needle).length)).IsValidUTF8 := by
      rw [cut]
      exact needle.isValidUTF8
    obtain same | ⟨start, stop⟩ := (String.Pos.Raw.isValidUTF8_extract_iff ⟨k⟩
      ⟨k + (utf8 needle).length⟩ (by simp [String.Pos.Raw.le_iff])
      (by simpa [String.Pos.Raw.le_iff] using room)).mp valid
    · have := congrArg String.Pos.Raw.byteIdx same
      simp only at this
      omega
    · obtain ⟨before, rest, split, at'⟩ := String.Pos.Raw.isValid_iff_exists_append.mp start
      obtain ⟨front, after, rfl, end'⟩ := String.Pos.Raw.isValid_iff_exists_append.mp stop
      have at' : k = before.utf8ByteSize := congrArg String.Pos.Raw.byteIdx at'
      have end' : k + (utf8 needle).length = front.utf8ByteSize :=
        congrArg String.Pos.Raw.byteIdx end'
      refine ⟨before, after, ?_, at'⟩
      have bytes : utf8 front = utf8 before ++ utf8 needle := by
        calc utf8 front
            = (utf8 (front ++ after)).take (k + (utf8 needle).length) := by
              rw [end', utf8_append, ← length_utf8, List.take_left]
          _ = (utf8 (front ++ after)).take k ++ utf8 needle := by
              rw [List.take_add, found]
          _ = utf8 before ++ utf8 needle := by
              rw [split, at', utf8_append, ← length_utf8, List.take_left]
      rw [← utf8_append, utf8_inj] at bytes
      rw [bytes]
  · rintro ⟨before, after, rfl, rfl⟩
    simp [← length_utf8, List.append_assoc]

/-! ### Lower case -/

namespace Matcher

theorem lowerByte_of_le {b : UInt8} (h : 0x80 ≤ b) : lowerByte b = b := by
  refine if_neg ?_
  rw [Bool.and_eq_true, decide_eq_true_eq, decide_eq_true_eq]
  rintro ⟨-, le⟩
  exact absurd (UInt8.le_trans h le) (by decide)

theorem le_or (a : UInt8) {b : UInt8} (h : 0x80 ≤ b) : 0x80 ≤ a ||| b := by
  rw [UInt8.le_iff_toNat_le] at h ⊢
  rw [UInt8.toNat_or]
  exact Nat.le_trans h Nat.right_le_or

/-- The bytes of a character that is not ASCII are not ASCII. -/
theorem le_of_mem_utf8EncodeChar {c : Char} (wide : c.utf8Size ≠ 1) :
    ∀ b ∈ String.utf8EncodeChar c, 0x80 ≤ b := by
  obtain one | two | three | four := c.utf8Size_eq
  · exact absurd one wide
  · rw [String.utf8EncodeChar_eq_cons_cons two]
    simp [le_or]
  · rw [String.utf8EncodeChar_eq_cons_cons_cons three]
    simp [le_or]
  · rw [String.utf8EncodeChar_eq_cons_cons_cons_cons four]
    simp [le_or]

theorem asciiLower_of_wide {c : Char} (wide : c.utf8Size ≠ 1) : Service.asciiLower c = c := by
  refine if_neg ?_
  rw [Bool.and_eq_true, decide_eq_true_eq, decide_eq_true_eq]
  rintro ⟨-, le⟩
  exact wide (Char.utf8Size_eq_one_iff.mpr (UInt32.le_trans le (by decide)))

/-- What holds of all ASCII characters holds of every character of one byte. -/
theorem ascii_induction {P : Char → Prop} (table : ∀ n < 128, P (Char.ofNat n)) {c : Char}
    (ascii : c.utf8Size = 1) : P c := by
  have narrow : c.toNat < 128 := Nat.lt_succ_of_le (Char.utf8Size_eq_one_iff.mp ascii)
  have here := table c.toNat narrow
  rwa [Char.ofNat_toNat] at here

theorem asciiLower_asciiLower (c : Char) :
    Service.asciiLower (Service.asciiLower c) = Service.asciiLower c := by
  by_cases ascii : c.utf8Size = 1
  · exact ascii_induction (P := fun c => Service.asciiLower (Service.asciiLower c) =
      Service.asciiLower c) (by decide) ascii
  · rw [asciiLower_of_wide ascii, asciiLower_of_wide ascii]

/-- Lower-casing a character is lower-casing its bytes. -/
theorem utf8EncodeChar_asciiLower (c : Char) :
    String.utf8EncodeChar (Service.asciiLower c) = (String.utf8EncodeChar c).map lowerByte := by
  by_cases ascii : c.utf8Size = 1
  · exact ascii_induction (P := fun c => String.utf8EncodeChar (Service.asciiLower c) =
      (String.utf8EncodeChar c).map lowerByte) (by decide) ascii
  · have same : ∀ b ∈ String.utf8EncodeChar c, lowerByte b = b := fun b hb =>
      lowerByte_of_le (le_of_mem_utf8EncodeChar ascii b hb)
    rw [asciiLower_of_wide ascii, List.map_congr_left same, List.map_id']

theorem utf8_lowered (s : String) : utf8 (Matcher.lowered s) = (utf8 s).map lowerByte := by
  rw [utf8_eq_bytesOf, utf8_eq_bytesOf, Matcher.lowered, String.toList_ofList, bytesOf, bytesOf,
    List.flatMap_map, List.map_flatMap]
  exact List.flatMap_congr fun c _ => utf8EncodeChar_asciiLower c

theorem lowered_lowered (s : String) : lowered (lowered s) = lowered s := by
  simp only [lowered, String.toList_ofList, List.map_map, Function.comp_def, asciiLower_asciiLower]

/-! ### Counting -/

/-- The stretches of so many bytes, wherever they begin. -/
def windows (size : Nat) (bytes : List UInt8) : List (List UInt8) :=
  (List.range (bytes.length + 1 - size)).map fun k => (bytes.drop k).take size

/-- Whether the bytes of a needle stand somewhere in some bytes. -/
def standsAt (caseless : Bool) (needle bytes : List UInt8) (k : Nat) : Bool :=
  agree caseless needle ((bytes.drop k).take needle.length)

/-- Where a character begins. -/
def offset (text : String) (i : Nat) : Nat :=
  utf8Size (text.toList.take i)

/-- A text as it is compared. -/
def shown (caseless : Bool) (s : String) : String :=
  if caseless then lowered s else s

/-- The same text, but for the case of some ASCII letters. -/
def Recased (a b : String) : Prop :=
  List.Forall₂ (fun c d => c = d ∨ d = Service.asciiLower c ∨ c = Service.asciiLower d)
    a.toList b.toList

variable {needle bytes : List UInt8}

theorem length_eq_of_agree {caseless : Bool} {a b : List UInt8} (h : agree caseless a b = true) :
    a.length = b.length := by
  cases caseless with
  | false => rw [eq_of_beq h]
  | true =>
    have same := congrArg List.length (eq_of_beq h)
    rwa [List.length_map, List.length_map] at same

theorem occurrencesFrom_eq (caseless : Bool) (needle : List UInt8) (found : Nat)
    (bytes : List UInt8) : occurrencesFrom caseless needle found bytes =
      found + Nat.count (fun k => standsAt caseless needle bytes k = true) bytes.length := by
  induction bytes generalizing found with
  | nil => simp [occurrencesFrom]
  | cons b rest ih =>
    have first : agree caseless needle ((b :: rest).take needle.length) =
        standsAt caseless needle (b :: rest) 0 := rfl
    have next : ∀ k, standsAt caseless needle (b :: rest) (k + 1) =
        standsAt caseless needle rest k := fun _ => rfl
    rw [occurrencesFrom, ih, List.length_cons, Nat.count_succ', first]
    simp only [next]
    by_cases here : standsAt caseless needle (b :: rest) 0 = true
    · rw [if_pos here, if_pos here]
      omega
    · rw [if_neg here, if_neg here, Nat.add_zero]

theorem occurrencesFrom_eq_card (caseless : Bool) (needle bytes : List UInt8) :
    occurrencesFrom caseless needle 0 bytes =
      ((Finset.range bytes.length).filter fun k =>
        standsAt caseless needle bytes k = true).card := by
  rw [occurrencesFrom_eq, Nat.zero_add, Nat.count_eq_card_filter_range]

/-- A needle stands only where there is room for it. -/
theorem add_le_of_standsAt {caseless : Bool} {k : Nat} (some : needle ≠ [])
    (stands : standsAt caseless needle bytes k = true) : k + needle.length ≤ bytes.length := by
  have pos := List.length_pos_of_ne_nil some
  have fits := length_eq_of_agree stands
  rw [List.length_take, List.length_drop] at fits
  omega

/-- Counting the stretches that agree is counting the places where the needle stands. -/
theorem length_filter_windows {caseless : Bool} (some : needle ≠ []) (bytes : List UInt8) :
    ((windows needle.length bytes).filter (agree caseless needle)).length =
      ((Finset.range bytes.length).filter fun k =>
        standsAt caseless needle bytes k = true).card := by
  have pos := List.length_pos_of_ne_nil some
  have counted : ∀ n, ((List.range n).map fun k => (bytes.drop k).take needle.length).countP
      (agree caseless needle) = Nat.count (fun k => standsAt caseless needle bytes k = true) n := by
    intro n
    induction n with
    | zero => rfl
    | succ n ih =>
      rw [List.range_succ, List.map_append, List.countP_append, ih, Nat.count_succ,
        List.map_singleton, List.countP_singleton]
      rfl
  rw [← List.countP_eq_length_filter, windows, counted, Nat.count_eq_card_filter_range]
  -- a needle that stands somewhere ends within the bytes
  congr 1
  ext k
  simp only [Finset.mem_filter, Finset.mem_range]
  refine and_congr_left fun stands => ?_
  have fits := length_eq_of_agree stands
  rw [List.length_take, List.length_drop] at fits
  omega

/-! ### Texts as they are compared -/

theorem shown_ne_empty (caseless : Bool) {s : String} (some : s ≠ "") : shown caseless s ≠ "" := by
  cases caseless with
  | false => exact some
  | true =>
    intro none
    apply some
    rw [← String.toList_inj] at none ⊢
    simpa [shown, lowered] using none

theorem utf8Size_map_asciiLower (cs : List Char) :
    utf8Size (cs.map Service.asciiLower) = utf8Size cs := by
  have each : ∀ c, (Service.asciiLower c).utf8Size = c.utf8Size := by
    intro c
    rw [← String.length_utf8EncodeChar, utf8EncodeChar_asciiLower, List.length_map,
      String.length_utf8EncodeChar]
  induction cs with
  | nil => rfl
  | cons c cs ih => rw [List.map_cons, utf8Size_cons, utf8Size_cons, each, ih]

theorem shown_shown (caseless : Bool) (s : String) :
    shown caseless (shown caseless s) = shown caseless s := by
  cases caseless with
  | false => rfl
  | true => exact lowered_lowered s

theorem offset_shown (caseless : Bool) (text : String) (i : Nat) :
    offset (shown caseless text) i = offset text i := by
  cases caseless with
  | false => rfl
  | true =>
    rw [offset, shown, if_pos rfl, lowered, String.toList_ofList, ← List.map_take,
      utf8Size_map_asciiLower]
    rfl

theorem length_shown (caseless : Bool) (text : String) :
    (shown caseless text).length = text.length := by
  cases caseless with
  | false => rfl
  | true => simp [shown, lowered, ← String.length_toList]

theorem length_utf8_shown (caseless : Bool) (text : String) :
    (utf8 (shown caseless text)).length = (utf8 text).length := by
  cases caseless with
  | false => rfl
  | true => rw [shown, if_pos rfl, utf8_lowered, List.length_map]

/-- Comparing up to the case of letters is comparing what is shown. -/
theorem standsAt_shown (caseless : Bool) (needle text : String) (k : Nat) :
    standsAt false (utf8 (shown caseless needle)) (utf8 (shown caseless text)) k =
      standsAt caseless (utf8 needle) (utf8 text) k := by
  cases caseless with
  | false => rfl
  | true =>
    simp only [standsAt, agree, shown, if_pos, utf8_lowered, List.length_map, ← List.map_drop,
      ← List.map_take, Bool.false_eq_true, if_false]

/-! ### Places between characters -/

theorem offset_length (before rest : String) :
    offset (before ++ rest) before.length = before.utf8ByteSize := by
  rw [offset, String.toList_append, ← String.length_toList, List.take_left,
    ← utf8ByteSize_ofList, String.ofList_toList]

theorem offset_lt {text : String} {i j : Nat} (lt : i < j) (le : j ≤ text.length) :
    offset text i < offset text j := by
  have between : (text.toList.take j).drop i ≠ [] := by
    rw [← List.length_pos_iff, List.length_drop, List.length_take, String.length_toList]
    omega
  obtain ⟨c, cs, first⟩ := List.exists_cons_of_ne_nil between
  have split : text.toList.take j = text.toList.take i ++ (c :: cs) := by
    have whole := List.take_append_drop i (text.toList.take j)
    rwa [List.take_take, Nat.min_eq_left lt.le, first, eq_comm] at whole
  rw [offset, offset, split, utf8Size_append, utf8Size_cons]
  have := c.utf8Size_pos
  omega

variable {needle text : String} {caseless : Bool}

/-- Wherever the bytes of a text stand, a character begins. -/
theorem exists_offset_of_standsAt (some : needle ≠ "") {k : Nat}
    (stands : standsAt caseless (utf8 needle) (utf8 text) k = true) :
    ∃ i < text.length, k = offset text i := by
  rw [← standsAt_shown] at stands
  obtain ⟨before, after, split, at'⟩ :=
    (take_drop_utf8_iff (shown_ne_empty caseless some) k).mp (eq_of_beq stands).symm
  have long : 0 < (shown caseless needle).length := by
    rw [← String.length_toList]
    refine List.length_pos_of_ne_nil fun none => shown_ne_empty caseless some ?_
    exact String.toList_eq_nil_iff.mp none
  refine ⟨before.length, ?_, ?_⟩
  · rw [← length_shown caseless text, split, String.length_append, String.length_append]
    omega
  · rw [← offset_shown caseless text, split, String.append_assoc, offset_length, at']

/-- The places where a needle stands, in bytes, are those in characters. -/
theorem card_standsAt (some : needle ≠ "") :
    ((Finset.range (utf8 text).length).filter fun k =>
        standsAt caseless (utf8 needle) (utf8 text) k = true).card =
      ((Finset.range text.length).filter fun i =>
        standsAt caseless (utf8 needle) (utf8 text) (offset text i) = true).card := by
  symm
  -- characters and the bytes where they begin are in step
  refine Finset.card_nbij (offset text) ?_ ?_ ?_
  · intro i hi
    obtain ⟨-, stands⟩ := Finset.mem_filter.mp hi
    refine Finset.mem_filter.mpr ⟨Finset.mem_range.mpr ?_, stands⟩
    have fits := length_eq_of_agree stands
    have pos := length_utf8_pos some
    rw [List.length_take, List.length_drop] at fits
    omega
  · intro i hi j hj same
    have hi := Finset.mem_range.mp (Finset.mem_filter.mp hi).1
    have hj := Finset.mem_range.mp (Finset.mem_filter.mp hj).1
    rcases lt_trichotomy i j with lt | eq | lt
    · exact absurd same (offset_lt lt hj.le).ne
    · exact eq
    · exact absurd same (offset_lt lt hi.le).ne'
  · intro k hk
    obtain ⟨-, stands⟩ := Finset.mem_filter.mp hk
    obtain ⟨i, lt, rfl⟩ := exists_offset_of_standsAt some stands
    exact ⟨i, Finset.mem_filter.mpr ⟨Finset.mem_range.mpr lt, stands⟩, rfl⟩

/-! ### What is found -/

/-- It makes no difference whether the needle has been lower-cased before. -/
theorem standsAt_shown_needle (caseless : Bool) (needle text : String) (k : Nat) :
    standsAt caseless (utf8 (shown caseless needle)) (utf8 text) k =
      standsAt caseless (utf8 needle) (utf8 text) k := by
  rw [← standsAt_shown caseless (shown caseless needle), ← standsAt_shown caseless needle,
    shown_shown]

/-- What is counted is how often the needle stands in the bytes. -/
theorem count_ofText_eq_card (some : needle ≠ "") : (ofText needle caseless).count text =
    ((Finset.range (utf8 text).length).filter fun k =>
      standsAt caseless (utf8 needle) (utf8 text) k = true).card := by
  have nonempty : (shown caseless needle).isEmpty = false := by
    rw [Bool.eq_false_iff, ne_eq, String.isEmpty_iff]
    exact shown_ne_empty caseless some
  show (if (shown caseless needle).isEmpty ||
      decide (text.utf8ByteSize < (shown caseless needle).utf8ByteSize) then 0
    else occurrencesFrom caseless (utf8 (shown caseless needle)) 0 (utf8 text)) = _
  rw [nonempty, Bool.false_or]
  split
  · next long =>
    -- there is no room for the needle anywhere
    rw [decide_eq_true_eq, ← length_utf8, ← length_utf8, length_utf8_shown] at long
    rw [eq_comm, Finset.card_eq_zero, Finset.filter_eq_empty_iff]
    intro k _ stands
    have := add_le_of_standsAt (List.ne_nil_of_length_pos (length_utf8_pos some)) stands
    omega
  · simp only [occurrencesFrom_eq_card, standsAt_shown_needle]

theorem isWithin_iff {needle text : List Char} : isWithin needle text = true ↔ needle <:+: text := by
  induction text with
  | nil => rw [isWithin, List.isEmpty_iff, List.infix_nil]
  | cons c rest ih =>
    rw [isWithin, Bool.or_eq_true, ih, List.isPrefixOf_iff_prefix, List.infix_cons_iff]

/-- A text matches if it contains the needle, as both are compared. -/
theorem matchesText_ofText_iff : (ofText needle caseless).matchesText text = true ↔
    ∃ before after, shown caseless text = before ++ shown caseless needle ++ after := by
  show isWithin (shown caseless needle).toList (shown caseless text).toList = true ↔ _
  rw [isWithin_iff]
  constructor
  · rintro ⟨before, after, split⟩
    refine ⟨String.ofList before, String.ofList after, String.toList_inj.mp ?_⟩
    rw [← split]
    simp
  · rintro ⟨before, after, split⟩
    refine ⟨before.toList, after.toList, ?_⟩
    rw [split]
    simp

/-- A needle that is contained stands somewhere, and is counted there. -/
theorem matchesText_ofText_iff_count (some : needle ≠ "") :
    (ofText needle caseless).matchesText text = true ↔
      0 < (ofText needle caseless).count text := by
  have stands_iff : ∀ k, standsAt caseless (utf8 needle) (utf8 text) k = true ↔
      ∃ before after, shown caseless text = before ++ shown caseless needle ++ after ∧
        k = before.utf8ByteSize := by
    intro k
    rw [← standsAt_shown, ← take_drop_utf8_iff (shown_ne_empty caseless some)]
    exact beq_iff_eq.trans eq_comm
  rw [matchesText_ofText_iff, count_ofText_eq_card some, Finset.card_pos]
  constructor
  · rintro ⟨before, after, split⟩
    have stands := (stands_iff _).mpr ⟨before, after, split, rfl⟩
    refine ⟨before.utf8ByteSize, Finset.mem_filter.mpr ⟨Finset.mem_range.mpr ?_, stands⟩⟩
    have long := length_utf8_pos some
    have room := add_le_of_standsAt (List.ne_nil_of_length_pos long) stands
    omega
  · rintro ⟨k, hk⟩
    obtain ⟨before, after, split, -⟩ := (stands_iff k).mp (Finset.mem_filter.mp hk).2
    exact ⟨before, after, split⟩

theorem Recased.lowered_eq {a b : String} (h : Recased a b) : lowered a = lowered b := by
  have each : ∀ c d : Char, c = d ∨ d = Service.asciiLower c ∨ c = Service.asciiLower d →
      Service.asciiLower c = Service.asciiLower d := by
    rintro c d (rfl | rfl | rfl)
    · rfl
    · exact (asciiLower_asciiLower c).symm
    · exact asciiLower_asciiLower d
  have all : a.toList.map Service.asciiLower = b.toList.map Service.asciiLower :=
    List.forall₂_eq_eq_eq ▸ List.forall₂_map_left_iff.mpr
      (List.forall₂_map_right_iff.mpr (h.imp each))
  rw [lowered, lowered, all]

/-- What `ofText` finds of a needle in a text. -/
structure Finds (needle text : String) (caseless : Bool) : Prop where
  /-- It counts the stretches of bytes that agree. -/
  windows : (ofText needle caseless).count text =
    ((windows (utf8 needle).length (utf8 text)).filter (agree caseless (utf8 needle))).length
  /-- It counts the characters where the needle stands. -/
  places : (ofText needle caseless).count text = ((Finset.range text.length).filter fun i =>
    standsAt caseless (utf8 needle) (utf8 text) (offset text i) = true).card
  /-- The needle stands nowhere else. -/
  aligned : ∀ k, standsAt caseless (utf8 needle) (utf8 text) k = true →
    ∃ i < text.length, k = offset text i
  /-- A text matches if it contains the needle, as both are compared. -/
  contains : (ofText needle caseless).matchesText text = true ↔
    ∃ before after, shown caseless text = before ++ shown caseless needle ++ after
  /-- A text matches if there is something to be counted. -/
  positive : (ofText needle caseless).matchesText text = true ↔
    0 < (ofText needle caseless).count text
  /-- The case of letters does not matter if it is not to. -/
  recased : caseless = true → ∀ needle' text', Recased needle needle' → Recased text text' →
    (ofText needle' caseless).count text' = (ofText needle caseless).count text ∧
    (ofText needle' caseless).matchesText text' = (ofText needle caseless).matchesText text

/-- Searching for a text finds it at characters, and finds it if and only if it is contained. -/
theorem finds_ofText (needle text : String) (caseless : Bool) (some : needle ≠ "") :
    Finds needle text caseless where
  windows := by
    have long := length_utf8_pos some
    rw [count_ofText_eq_card some, length_filter_windows (List.ne_nil_of_length_pos long)]
  places := by
    rw [count_ofText_eq_card some, card_standsAt some]
  aligned := fun _ stands => exists_offset_of_standsAt some stands
  contains := matchesText_ofText_iff
  positive := matchesText_ofText_iff_count some
  recased := by
    rintro rfl needle' text' needles texts
    have same : ofText needle' true = ofText needle true :=
      congrArg (substring · true) needles.lowered_eq.symm
    have seen : shown true text' = shown true text := texts.lowered_eq.symm
    have stands : ∀ k, standsAt true (utf8 needle) (utf8 text') k =
        standsAt true (utf8 needle) (utf8 text) k := by
      intro k
      rw [← standsAt_shown true needle text', seen, standsAt_shown]
    rw [same]
    constructor
    · rw [count_ofText_eq_card some, count_ofText_eq_card some, ← length_utf8_shown true, seen,
        length_utf8_shown]
      simp only [stands]
    · rw [Bool.eq_iff_iff, matchesText_ofText_iff, matchesText_ofText_iff, seen]

/-- A character of two bytes is found twice in a text of five. -/
theorem finds_ofText_umlaut : "é" ≠ "" ∧ Finds "é" "hÉéé" true :=
  ⟨by decide, finds_ofText "é" "hÉéé" true (by decide)⟩

end Matcher

end Scrollback
