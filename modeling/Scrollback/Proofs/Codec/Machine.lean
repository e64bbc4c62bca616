/-
The pieces of a stored log, read on a machine.  Each piece is read as without bounds, because what
was read before it lies within the bytes, and the bytes are fewer than half of the words: so the
lemmas here go in the order of reading, and each asks for what the reader has checked by then.  The
entries of the name table are the exception (`readNames_cases`): nothing has been checked about a
name when the place where it stops is added up.
-/
import Scrollback.Codec.Machine
import Scrollback.Proofs.Codec.Reading

namespace Scrollback.Codec

namespace Machine

variable {α β : Type}

/-! ### Computations without faults -/

theorem ok_bind {ε : Type} (a : α) (f : α → Except ε β) : ((.ok a : Except ε α) >>= f) = f a := rfl

theorem lift_map (x : Except CodecError α) (f : α → β) : (lift x).map f = lift (x.map f) := by
  rcases x with e | a
  · rfl
  · rfl

/-- A computation without faults does not stop the machine. -/
theorem lift_ne_fault {x : Except CodecError α} {f : Fault} : lift x ≠ .error (.fault f) := by
  rcases x with e | a
  · intro h
    cases h
  · intro h
    cases h

/-- Two computations agree, one after another, if the second ones do where the first succeeds. -/
theorem lift_bind {x : Except CodecError α} {f : α → Except CodecError β} {g : α → Except Halt β}
    (h : ∀ a, x = .ok a → g a = lift (f a)) : (lift x >>= g) = lift (x >>= f) := by
  rcases x with e | a
  · rfl
  · exact h a rfl

theorem lift_bind_congr {x : Except CodecError α} {f g : α → Except Halt β}
    (h : ∀ a, x = .ok a → f a = g a) : (lift x >>= f) = (lift x >>= g) := by
  rcases x with e | a
  · rfl
  · exact h a rfl

/-- A refusal is one on either side, and otherwise the computations go on. -/
theorem lift_check {c c' : Prop} [Decidable c] [Decidable c'] {e : CodecError}
    {f : PUnit → Except CodecError α} {g : PUnit → Except Halt α} {y : Except CodecError α}
    {z : Except Halt α} (same : c' ↔ c) (h : ¬c → z = lift y) :
    (if c' then throw (.refused e) >>= g else z) = lift (if c then throw e >>= f else y) := by
  by_cases hc : c
  · rw [if_pos (same.mpr hc), if_pos hc]
    rfl
  · rw [if_neg (mt same.mp hc), if_neg hc, h hc]

/-- Computations in a row agree, if each does up to which the earlier ones succeed. -/
theorem lift_mapM {xs : List α} {f : α → Except CodecError β} {g : α → Except Halt β}
    (h : ∀ before a after, xs = before ++ a :: after → (∀ x ∈ before, ∃ b, f x = .ok b) →
      g a = lift (f a)) : xs.mapM g = lift (xs.mapM f) := by
  induction xs with
  | nil => rfl
  | cons x xs ih =>
    rw [List.mapM_cons, List.mapM_cons, h [] x xs rfl (by simp)]
    apply lift_bind
    intro b first
    rw [ih ?_]
    · exact lift_bind fun _ _ => rfl
    · intro before a after split succeed
      apply h (x :: before) a after (by rw [split]; rfl)
      intro y hy
      rcases List.mem_cons.mp hy with rfl | hy
      · exact ⟨b, first⟩
      · exact succeed y hy

/-- Before a number in a row from zero stand those below it. -/
theorem of_range_eq_append {n k : Nat} {before after : List Nat}
    (split : List.range n = before ++ k :: after) : k < n ∧ before = List.range k := by
  have place : (List.range n)[before.length]? = some k := by simp [split]
  obtain ⟨hlt, rfl⟩ := List.getElem?_eq_some_iff.mp place
  rw [List.getElem_range, List.length_range] at *
  refine ⟨hlt, ?_⟩
  -- both sides begin with as many numbers
  have taken := congrArg (List.take before.length) split
  rw [List.take_left, List.take_range, Nat.min_eq_left (Nat.le_of_lt hlt)] at taken
  exact taken.symm

/-! ### Sums and products -/

theorem add_eq {a b : Nat} (h : a + b ≤ top) : add a b = .ok (a + b) := if_pos h

theorem mul_eq {a b : Nat} (h : a * b ≤ top) : mul a b = .ok (a * b) := if_pos h

theorem reserve_eq {limit n : Nat} (h : n ≤ limit) : reserve limit n = .ok () := if_pos h

theorem width_bounds (m : Mode) : 0 < m.width ∧ m.width ≤ 8 := by
  cases m <;> decide

theorem pairPlace_eq {first i : Nat} {m : Mode} (h : first + i * (2 * m.width) ≤ top) :
    pairPlace first m.width i = .ok (first + i * (2 * m.width)) := by
  -- the machine doubles the number first
  have same : i * (2 * m.width) = i * 2 * m.width := (Nat.mul_assoc ..).symm
  have twice : i * 2 ≤ i * 2 * m.width := Nat.le_mul_of_pos_right _ (width_bounds m).1
  rw [same] at h ⊢
  rw [pairPlace, mul_eq (by omega), ok_bind, mul_eq (by omega), ok_bind, add_eq h]

/-! ### Numbers and stretches -/

variable {s : Source} {start length count size i : Nat} {part : CodecPart}

theorem maxBytes_le : maxBytes ≤ top := Nat.div_le_self _ _

section Source

variable (small : s.bytes.size ≤ maxBytes)

include small

theorem slice_eq : slice s start length part = lift (s.slice start length part) := by
  have bound := maxBytes_le
  rw [slice]
  split
  · -- what ends beyond the words ends beyond the bytes
    next beyond =>
    rw [Source.slice, if_neg (by omega)]
    rfl
  · rfl

theorem word_eq : word s start part = lift (s.word start part) := by
  rw [word, slice_eq small, lift_map]
  rfl

theorem stamp_eq : stamp s start part = lift (s.stamp start part) := by
  rw [stamp, slice_eq small, lift_map]
  rfl

/-- Once the size of a stretch has been read, the stretch begins within the bytes. -/
theorem sized_eq : sized s start part = lift (s.sized start part) := by
  rw [sized, word_eq small]
  apply lift_bind
  intro length read
  have inside := le_of_word read
  have bound := maxBytes_le
  rw [add_eq (by omega), ok_bind, slice_eq small]

theorem sizedOrEmpty_eq : sizedOrEmpty s start part = lift (s.sizedOrEmpty start part) := by
  rw [sizedOrEmpty, Source.sizedOrEmpty]
  split
  · rfl
  · exact sized_eq small

theorem room_eq : room s start count size part = lift (s.room start count size part) := by
  have bound := maxBytes_le
  rw [room, slice_eq small, lift_map]
  split
  · next beyond =>
    rw [Source.room, Source.slice, if_neg (by omega)]
    rfl
  · rfl

end Source

/-! ### The header -/

theorem readTags_eq (bytes : ByteArray) : readTags bytes = lift (Codec.readTags bytes) := by
  rw [readTags, Codec.readTags]
  apply lift_check Iff.rfl
  intro large
  have size : 8 ≤ bytes.size := Nat.not_lt.mp large
  rw [byteAt, if_pos (by omega), ok_bind]
  dsimp only
  rcases Mode.ofTag? (bytes.get! 0) with - | mode
  · rfl
  · dsimp only
    rw [byteAt, if_pos (by omega), ok_bind]
    rcases ByteOrder.ofTag? (bytes.get! 1) with - | order
    · rfl
    · dsimp only
      split
      · rfl
      · rfl

theorem field_eq (small : s.bytes.size ≤ maxBytes) (few : i ≤ headerWords) :
    field s i = lift (s.word (preambleSize + i * s.mode.width) .header) := by
  have width := (width_bounds s.mode).2
  have ahead : i * s.mode.width ≤ 9 * 8 := Nat.mul_le_mul few width
  have front : preambleSize = 8 := rfl
  have words : 1000 ≤ top := by decide
  rw [field, mul_eq (by omega), ok_bind, add_eq (by omega), ok_bind, word_eq small]

/-- No sum of the header is too great. -/
theorem readHeader_eq {bytes : ByteArray} (small : bytes.size ≤ maxBytes) :
    readHeader bytes = lift (Codec.readHeader bytes) := by
  rw [readHeader, Codec.readHeader, readTags_eq]
  apply lift_bind
  intro s tags
  have small : s.bytes.size ≤ maxBytes := by rwa [bytes_of_readTags tags]
  have width := (width_bounds s.mode).2
  have ahead : headerWords * s.mode.width ≤ 9 * 8 := Nat.mul_le_mul_left _ width
  have front : preambleSize = 8 := rfl
  have words : 1000 ≤ top := by decide
  have fields : ∀ i ≤ headerWords, field s i = lift (s.word (preambleSize + i * s.mode.width)
      .header) := fun i => field_eq small
  rw [mul_eq (by omega), ok_bind, add_eq (by omega), ok_bind, stamp_eq small]
  apply lift_bind
  intro start _
  rw [add_eq (by omega), ok_bind, stamp_eq small]
  apply lift_bind
  intro stop _
  simp only [fields 0 (by decide), fields 1 (by decide), fields 2 (by decide),
    fields 3 (by decide), fields 4 (by decide), fields 5 (by decide), fields 6 (by decide),
    fields 7 (by decide), fields 8 (by decide)]
  -- the nine numbers, and the period
  iterate 10
    apply lift_bind
    intro _ _
  rfl

/-! ### The name table -/

variable {first namesSize messagesSize : Nat} {text : String}

/-- The `i`-th entry of a name table whose entries start at `first`. -/
def entry (s : Source) (first : Nat) (text : String) (namesSize i : Nat) :
    Except CodecError Span := do
  let offset ← s.word (first + i * (2 * s.mode.width)) .nameTable
  let length ← s.word (first + i * (2 * s.mode.width) + s.mode.width) .nameTable
  let span : Span := ⟨offset, length⟩
  if namesSize < span.stop || !decide (span.Fits text) then throw (.outOfBounds .nameTable)
  pure span

theorem readNames_eq_entries (present : start ≠ 0) :
    Codec.readNames s start text namesSize = (do
      let count ← s.word start .nameTable
      s.room (start + s.mode.width) count (2 * s.mode.width) .nameTable
      (List.range count).mapM (entry s (start + s.mode.width) text namesSize)) := by
  rw [Codec.readNames, if_neg present]
  rfl

/-- The place where the `i`-th entry stops is no word. -/
def TooFar (s : Source) (first i : Nat) : Prop :=
  ∃ offset length, s.word (first + i * (2 * s.mode.width)) .nameTable = .ok offset ∧
    s.word (first + i * (2 * s.mode.width) + s.mode.width) .nameTable = .ok length ∧
    top < offset + length

section Names

variable (small : s.bytes.size ≤ maxBytes)
  (inside : first + i * (2 * s.mode.width) + 2 * s.mode.width ≤ s.bytes.size)

include small inside

/-- What is done with the two numbers of an entry. -/
theorem readName_bind :
    readName s first text namesSize i = (do
      let offset ← lift (s.word (first + i * (2 * s.mode.width)) .nameTable)
      let length ← lift (s.word (first + i * (2 * s.mode.width) + s.mode.width) .nameTable)
      let stop ← add offset length
      let span : Span := ⟨offset, length⟩
      if namesSize < stop || !decide (span.Fits text) then
        throw (.refused (.outOfBounds .nameTable))
      pure span) := by
  have bound := maxBytes_le
  rw [readName, pairPlace_eq (by omega), ok_bind, word_eq small, add_eq (by omega)]
  simp only [ok_bind, word_eq small]

/-- An entry that stops beyond the words would be refused, but it stops the machine. -/
theorem readName_of_tooFar (far : TooFar s first i) (sizes : namesSize ≤ top) :
    readName s first text namesSize i = .error (.fault .overflow) ∧
      entry s first text namesSize i = .error (.outOfBounds .nameTable) := by
  obtain ⟨offset, length, hoffset, hlength, beyond⟩ := far
  rw [readName_bind small inside, entry, hoffset, hlength]
  constructor
  · show (add offset length >>= _) = _
    rw [add, if_neg (Nat.not_le.mpr beyond)]
    rfl
  · show (if namesSize < offset + length || _ then _ else _) = _
    rw [if_pos (by simp [Nat.lt_of_le_of_lt sizes beyond])]
    rfl

theorem readName_eq (near : ¬TooFar s first i) :
    readName s first text namesSize i = lift (entry s first text namesSize i) := by
  rw [readName_bind small inside, entry]
  apply lift_bind
  intro offset hoffset
  apply lift_bind
  intro length hlength
  have stop : offset + length ≤ top :=
    Nat.not_lt.mp fun beyond => near ⟨offset, length, hoffset, hlength, beyond⟩
  rw [add_eq stop, ok_bind]
  exact lift_check Iff.rfl fun _ => rfl

end Names

/-- The first entry that is not accepted stops beyond the words. -/
def StopsTooFar (s : Source) (start : Nat) (text : String) (namesSize : Nat) : Prop :=
  start ≠ 0 ∧ ∃ count, s.word start .nameTable = .ok count ∧
    s.room (start + s.mode.width) count (2 * s.mode.width) .nameTable = .ok () ∧
    ∃ k < count, (∀ i < k, ∃ span, entry s (start + s.mode.width) text namesSize i = .ok span) ∧
      TooFar s (start + s.mode.width) k

/-- The place of an entry is within the room of all. -/
theorem inside_of_room {count k size : Nat} (hk : k < count)
    (room : start + count * size ≤ s.bytes.size) : start + k * size + size ≤ s.bytes.size := by
  have := Nat.mul_le_mul_right size (Nat.succ_le_of_lt hk)
  rw [Nat.succ_mul] at this
  omega

section

variable (small : s.bytes.size ≤ maxBytes)

include small

/-- Up to the entries nothing is too great. -/
theorem readNames_bind {limit : Nat} (limited : s.bytes.size ≤ limit) (present : start ≠ 0) :
    readNames limit s start text namesSize = (do
      let count ← lift (s.word start .nameTable)
      let _ ← lift (s.room (start + s.mode.width) count (2 * s.mode.width) .nameTable)
      (List.range count).mapM (readName s (start + s.mode.width) text namesSize)) := by
  have bound := maxBytes_le
  have width := width_bounds s.mode
  have words : 1000 ≤ top := by decide
  rw [readNames, if_neg present, word_eq small]
  apply lift_bind_congr
  intro count read
  have inside := le_of_word read
  dsimp only
  rw [Nat.min_eq_left (by omega), mul_eq (by omega), ok_bind, room_eq small]
  apply lift_bind_congr
  intro _ room
  -- an entry takes at least one byte, so there are no more entries than bytes
  have fits := Source.room_eq_ok.mp room
  have many : count * 1 ≤ count * (2 * s.mode.width) := Nat.mul_le_mul_left count (by omega)
  rw [reserve_eq (by omega), ok_bind]

/-- The name table is read alike, or it stops the machine at the first entry that would be
refused. -/
theorem readNames_cases {limit : Nat} (limited : s.bytes.size ≤ limit) (sizes : namesSize ≤ top) :
    (StopsTooFar s start text namesSize →
      readNames limit s start text namesSize = .error (.fault .overflow) ∧
        Codec.readNames s start text namesSize = .error (.outOfBounds .nameTable)) ∧
    (¬StopsTooFar s start text namesSize →
      readNames limit s start text namesSize = lift (Codec.readNames s start text namesSize)) := by
  constructor
  · rintro ⟨present, count, read, room, k, hk, accepted, far⟩
    have place {i : Nat} (hi : i < count) := inside_of_room hi (Source.room_eq_ok.mp room)
    rw [readNames_bind small limited present, readNames_eq_entries present, read]
    show (lift (s.room _ count _ _) >>= _) = _ ∧ (s.room _ count _ _ >>= _) = _
    rw [room]
    obtain ⟨stopped, refused⟩ := readName_of_tooFar small (place hk) far sizes
    refine ⟨Except.mapM_range_eq_error hk (fun i hi => ?_) stopped,
      Except.mapM_range_eq_error hk accepted refused⟩
    -- an entry that is accepted does not stop the machine
    obtain ⟨span, entry⟩ := accepted i hi
    refine ⟨span, ?_⟩
    rw [readName_eq small (place (hi.trans hk)), entry]
    · rfl
    · intro far
      rw [(readName_of_tooFar small (place (hi.trans hk)) far sizes).2] at entry
      cases entry
  · intro never
    by_cases present : start = 0
    · rw [readNames, Codec.readNames, if_pos present, if_pos present]
      rfl
    · rw [readNames_bind small limited present, readNames_eq_entries present]
      apply lift_bind
      intro count read
      apply lift_bind
      intro _ room
      apply lift_mapM
      intro before k after split succeed
      obtain ⟨hk, rfl⟩ := of_range_eq_append split
      apply readName_eq small (inside_of_room hk (Source.room_eq_ok.mp room))
      intro far
      exact never ⟨present, count, read, room, k, hk,
        fun i hi => succeed i (List.mem_range.mpr hi), far⟩

end

/-! ### The order of the names -/

theorem cutOut_eq {span : Span} (fits : span.Fits text) (stop : span.stop ≤ top) :
    cutOut text span = .ok (span.textIn text) := by
  rw [cutOut, add_eq stop, ok_bind, if_pos fits]
  rfl

/-- Names that fit the text can be looked at. -/
theorem increasing_eq {names : List Span} (fit : ∀ n ∈ names, n.Fits text ∧ n.stop ≤ top) :
    increasing text names =
      lift (.ok (Codec.increasing (names.map fun n => utf8 (n.textIn text)))) := by
  induction names with
  | nil => rfl
  | cons a names ih =>
    cases names with
    | nil => rfl
    | cons b rest =>
      have fitA := fit a List.mem_cons_self
      have fitB := fit b (List.mem_cons_of_mem _ List.mem_cons_self)
      -- the first two are cut out and compared, the rest only if they are in order
      rw [increasing, cutOut_eq fitA.1 fitA.2, ok_bind, cutOut_eq fitB.1 fitB.2, ok_bind,
        ih fun n hn => fit n (List.mem_cons_of_mem _ hn)]
      simp only [List.map_cons, Codec.increasing]
      by_cases before : utf8 (a.textIn text) < utf8 (b.textIn text)
      · rw [if_pos before, decide_eq_true before, Bool.true_and]
      · rw [if_neg before, decide_eq_false before, Bool.false_and]
        rfl

/-! ### Lines -/

/-- The arrays of the lines lie within the bytes. -/
structure Rooms (s : Source) (h : Header) : Prop where
  times : h.timestamps + h.lineCount * 8 ≤ s.bytes.size
  authors : h.authors + h.lineCount * s.mode.width ≤ s.bytes.size
  messages : h.messageTable + h.lineCount * (2 * s.mode.width) ≤ s.bytes.size

section Lines

variable {h : Header} {names : Array Span} (small : s.bytes.size ≤ maxBytes)

include small

theorem readLine_eq (rooms : Rooms s h) (hi : i < h.lineCount)
    (sizes : namesSize + messagesSize ≤ top) :
    readLine s h text namesSize messagesSize names i =
      lift (Codec.readLine s h text namesSize messagesSize names i) := by
  have bound := maxBytes_le
  have time := inside_of_room hi rooms.times
  have author := inside_of_room hi rooms.authors
  have message := inside_of_room hi rooms.messages
  rw [readLine, Codec.readLine]
  dsimp only
  rw [mul_eq (by omega), ok_bind, add_eq (by omega), ok_bind, stamp_eq small]
  apply lift_bind
  intro millis _
  apply lift_bind
  intro time _
  rw [mul_eq (by omega), ok_bind, add_eq (by omega), ok_bind, word_eq small]
  apply lift_bind
  intro index _
  rcases names[index]? with - | author
  · rfl
  · dsimp only
    rw [pairPlace_eq (by omega), ok_bind, word_eq small]
    apply lift_bind
    intro offset _
    rw [add_eq (by omega), ok_bind, word_eq small]
    apply lift_bind
    intro length _
    -- a sum that is no word is greater than any size
    apply lift_check
    · simp only [Bool.or_eq_true, decide_eq_true_eq]
      omega
    · intro within
      rw [add_eq (by omega), ok_bind]
      exact lift_check Iff.rfl fun _ => rfl

theorem readLines_eq {limit : Nat} (limited : s.bytes.size ≤ limit)
    (sizes : namesSize + messagesSize ≤ top) :
    readLines limit s h text namesSize messagesSize names =
      lift (Codec.readLines s h text namesSize messagesSize names) := by
  have width := width_bounds s.mode
  have words : 1000 ≤ top := by decide
  rw [readLines, Codec.readLines]
  split
  · rfl
  · apply lift_check Iff.rfl
    intro _
    rw [room_eq small]
    apply lift_bind
    intro _ times
    rw [room_eq small]
    apply lift_bind
    intro _ authors
    rw [mul_eq (by omega), ok_bind, room_eq small]
    apply lift_bind
    intro _ messages
    have rooms : Rooms s h := ⟨Source.room_eq_ok.mp times, Source.room_eq_ok.mp authors,
      Source.room_eq_ok.mp messages⟩
    have few := rooms.times
    rw [reserve_eq (by omega), ok_bind]
    apply lift_mapM
    intro before k after split _
    exact readLine_eq small rooms (of_range_eq_append split).1 sizes

end Lines

end Machine

end Scrollback.Codec
