/-
What a machine does with any bytes.  It reads the header as `Codec.readHeader` does, whatever stands
in the bytes, and the log as `Codec.decode` does, with one exception: where the first entry of the
name table that is not accepted stops beyond the words (`Overflows`), the bytes are not refused, and
the machine is stopped.  Only the widest numbers spell such an entry, and none of the logs that are
accepted has one (`Machine.decode_of_ok`).
-/
import Scrollback.Proofs.Codec.Machine
import Scrollback.Proofs.Codec.Number

namespace Scrollback.Codec

namespace Machine

variable {α : Type} {s : Source} {start namesSize : Nat} {part : CodecPart} {text : String}

/-! ### Texts -/

theorem size_le_of_sized {b : ByteArray} (read : s.sized start part = .ok b) :
    b.size ≤ s.bytes.size := by
  have := le_of_sized read
  omega

theorem size_le_of_sizedOrEmpty {b : ByteArray} (read : s.sizedOrEmpty start part = .ok b) :
    b.size ≤ s.bytes.size := by
  rw [Source.sizedOrEmpty] at read
  split at read
  · cases read
    exact Nat.zero_le _
  · exact size_le_of_sized read

theorem ownText_eq {limit : Nat} {x : Except CodecError ByteArray}
    (few : ∀ b, x = .ok b → b.size ≤ limit) :
    (lift x >>= ownText limit) = lift (x >>= textOf) := by
  apply lift_bind
  intro b hb
  rw [ownText, reserve_eq (few b hb)]
  rcases textOf b with e | t
  · rfl
  · rfl

/-- What `decode` reads before the names. -/
def textsOf (bytes : ByteArray) : Except CodecError Texts := do
  let h ← Codec.readHeader bytes
  if h.channel = 0 then throw (.missingSection .channel)
  let channel ← (h.source bytes).sized h.channel .channel >>= textOf
  let user ← (h.source bytes).sizedOrEmpty h.user .user >>= textOf
  let nameBlob ← (h.source bytes).sizedOrEmpty h.names .nameBlob
  let messageBlob ← (h.source bytes).sizedOrEmpty h.messages .messageBlob
  let text ← textOf (nameBlob ++ messageBlob)
  pure ⟨h, channel, user, nameBlob.size, messageBlob.size, text⟩

/-- What `decode` reads after the texts. -/
def restOf (bytes : ByteArray) (t : Texts) : Except CodecError Log := do
  let names ← Codec.readNames (t.header.source bytes) t.header.nameTable t.text t.namesSize
  if !Codec.increasing (names.map fun n => utf8 (n.textIn t.text)) then throw .unsortedNames
  let lines ← Codec.readLines (t.header.source bytes) t.header t.text t.namesSize t.messagesSize
    names.toArray
  pure ⟨⟨t.channel, t.header.period, t.user⟩, t.text, true, names.toArray, lines.toArray⟩

theorem decode_eq_bind (bytes : ByteArray) :
    Codec.decode bytes = (textsOf bytes >>= restOf bytes) := by
  rw [Codec.decode, textsOf, bind_assoc]
  apply bind_congr
  intro h
  split
  · rfl
  · simp only [bind_assoc, pure_bind]
    rfl

/-- Neither the texts nor the room for them stop the machine. -/
theorem readTexts_eq {bytes : ByteArray} (small : bytes.size ≤ maxBytes) :
    readTexts (2 * bytes.size) bytes = lift (textsOf bytes) := by
  have double : 2 * maxBytes ≤ top := by decide
  rw [readTexts, textsOf, readHeader_eq small]
  apply lift_bind
  intro h _
  have small : (h.source bytes).bytes.size ≤ maxBytes := small
  have half {b : ByteArray} (hb : b.size ≤ bytes.size) : b.size ≤ 2 * bytes.size := by omega
  apply lift_check Iff.rfl
  intro _
  rw [← Header.source, sized_eq small, ownText_eq fun _ read => half (size_le_of_sized read)]
  apply lift_bind
  intro channel _
  rw [sizedOrEmpty_eq small, ownText_eq fun _ read => half (size_le_of_sizedOrEmpty read)]
  apply lift_bind
  intro user _
  rw [sizedOrEmpty_eq small]
  apply lift_bind
  intro nameBlob names
  rw [sizedOrEmpty_eq small]
  apply lift_bind
  intro messageBlob messages
  -- the two stretches may lie over each other, so together they may be twice the bytes
  have sizes := size_le_of_sizedOrEmpty names
  have sizes' := size_le_of_sizedOrEmpty messages
  dsimp only [Header.source] at sizes sizes'
  rw [add_eq (by omega), ok_bind, reserve_eq (by omega), ok_bind]
  exact lift_bind fun _ _ => rfl

/-- The texts are read after a header, and come from the bytes. -/
theorem of_textsOf {bytes : ByteArray} {t : Texts} (read : textsOf bytes = .ok t) :
    Codec.readHeader bytes = .ok t.header ∧ t.namesSize ≤ bytes.size ∧
      t.messagesSize ≤ bytes.size := by
  simp only [textsOf, Except.bind_eq_ok, Except.throw_if_bind_eq_ok, Except.pure_eq_ok] at read
  obtain ⟨h, header, -, _, -, _, -, nameBlob, names, messageBlob, messages, _, -, rfl⟩ := read
  exact ⟨header, size_le_of_sizedOrEmpty names, size_le_of_sizedOrEmpty messages⟩

/-- Both texts together are not greater than the greatest word. -/
theorem sizes_of_textsOf {bytes : ByteArray} {t : Texts} (small : bytes.size ≤ maxBytes)
    (read : textsOf bytes = .ok t) : t.namesSize + t.messagesSize ≤ top := by
  obtain ⟨-, names, messages⟩ := of_textsOf read
  have double : 2 * maxBytes ≤ top := by decide
  omega

/-! ### Whole logs -/

theorem fit_of_readNames {names : List Span} (sizes : namesSize ≤ top)
    (read : Codec.readNames s start text namesSize = .ok names) :
    ∀ n ∈ names, n.Fits text ∧ n.stop ≤ top := by
  by_cases present : start = 0
  · subst present
    cases read
    exact fun n hn => absurd hn List.not_mem_nil
  · intro n hn
    obtain ⟨i, hi, rfl⟩ := List.getElem_of_mem hn
    have name := ((readNames_eq_ok present).mp read).2.2 i hi
    exact ⟨name.fits, name.stop_le.trans sizes⟩

/-- The first entry of the name table that `decode` does not accept stops beyond the words. -/
def Overflows (bytes : ByteArray) : Prop :=
  ∃ t, textsOf bytes = .ok t ∧
    StopsTooFar (t.header.source bytes) t.header.nameTable t.text t.namesSize

theorem readRest_cases {bytes : ByteArray} {t : Texts} (small : bytes.size ≤ maxBytes)
    (sizes : t.namesSize + t.messagesSize ≤ top) :
    (StopsTooFar (t.header.source bytes) t.header.nameTable t.text t.namesSize →
      readRest (2 * bytes.size) bytes t = .error (.fault .overflow) ∧
        restOf bytes t = .error (.outOfBounds .nameTable)) ∧
    (¬StopsTooFar (t.header.source bytes) t.header.nameTable t.text t.namesSize →
      readRest (2 * bytes.size) bytes t = lift (restOf bytes t)) := by
  have small : (t.header.source bytes).bytes.size ≤ maxBytes := small
  have limited : (t.header.source bytes).bytes.size ≤ 2 * bytes.size :=
    Nat.le_mul_of_pos_left _ (by decide)
  have sizes' : t.namesSize ≤ top := by omega
  obtain ⟨stops, agrees⟩ := readNames_cases small limited sizes'
  rw [readRest, restOf, ← Header.source]
  constructor
  · intro far
    obtain ⟨stopped, refused⟩ := stops far
    rw [stopped, refused]
    exact ⟨rfl, rfl⟩
  · intro near
    rw [agrees near]
    apply lift_bind
    intro names read
    rw [increasing_eq (fit_of_readNames sizes' read)]
    show (if _ then _ else _) = _
    apply lift_check Iff.rfl
    intro _
    rw [readLines_eq small limited sizes]
    exact lift_bind fun _ _ => rfl

/-! ### Wide numbers -/

/-- A number that has been read is one that its width can hold. -/
theorem lt_of_word {n : Nat} (read : s.word start part = .ok n) : n < 256 ^ s.mode.width := by
  obtain ⟨b, cut, rfl⟩ := Except.map_eq_ok.mp read
  obtain ⟨inside, rfl⟩ := Source.slice_eq_ok.mp cut
  have few := s.order.number_lt (s.bytes.extract start (start + s.mode.width)).data.toList
  have size : (s.bytes.extract start (start + s.mode.width)).data.toList.length = s.mode.width := by
    rw [Array.length_toList]
    show (s.bytes.extract start (start + s.mode.width)).size = _
    rw [ByteArray.size_extract]
    omega
  rwa [size] at few

theorem u64_of_tooFar {first i : Nat} (far : TooFar s first i) : s.mode = .u64 := by
  obtain ⟨offset, length, hoffset, hlength, beyond⟩ := far
  have low := lt_of_word hoffset
  have low' := lt_of_word hlength
  -- the sum of two numbers of four bytes is a word
  have sum : 2 * 256 ^ 4 ≤ top := by decide
  have width : 4 < s.mode.width := by
    by_contra narrow
    have few : 256 ^ s.mode.width ≤ 256 ^ 4 := Nat.pow_le_pow_right (by decide) (by omega)
    omega
  rcases mode : s.mode with - | - | -
  · rw [mode] at width
    exact absurd width (by decide)
  · rw [mode] at width
    exact absurd width (by decide)
  · rfl

/-- Only the widest numbers spell an entry that stops beyond the words. -/
theorem Overflows.u64 {bytes : ByteArray} (far : Overflows bytes) :
    ∃ h, Codec.readHeader bytes = .ok h ∧ h.mode = .u64 := by
  obtain ⟨t, read, -, count, -, -, k, -, -, far⟩ := far
  exact ⟨t.header, (of_textsOf read).1, u64_of_tooFar far⟩

/-! ### What the machine does -/

section

variable {bytes : ByteArray} (small : bytes.size ≤ maxBytes)

include small

/-- Where no entry stops beyond the words, the machine reads as if there were no bounds. -/
theorem decode_of_not_overflows (never : ¬Overflows bytes) :
    decode bytes = lift (Codec.decode bytes) := by
  rw [decode, decode_eq_bind, readTexts_eq small]
  apply lift_bind
  intro t read
  exact (readRest_cases small (sizes_of_textsOf small read)).2 fun far => never ⟨t, read, far⟩

/-- Where one does, the machine is stopped by what would be refused. -/
theorem decode_of_overflows (far : Overflows bytes) :
    decode bytes = .error (.fault .overflow) ∧
      Codec.decode bytes = .error (.outOfBounds .nameTable) := by
  obtain ⟨t, read, stops⟩ := far
  rw [decode, decode_eq_bind, readTexts_eq small, read]
  exact (readRest_cases small (sizes_of_textsOf small read)).1 stops

/-- A log that is accepted is read without a fault. -/
theorem decode_of_ok {log : Log} (read : Codec.decode bytes = .ok log) : decode bytes = .ok log := by
  have never : ¬Overflows bytes := by
    intro far
    rw [(decode_of_overflows small far).2] at read
    cases read
  rw [decode_of_not_overflows small never, read]
  rfl

end

/-- Any bytes that there can be are read without a fault, but for those whose name table stops
beyond the words: these would be refused, and stop the machine. -/
theorem decode_unless_overflows (bytes : ByteArray) (small : bytes.size ≤ maxBytes) :
    readHeader bytes = lift (Codec.readHeader bytes) ∧
      (¬Overflows bytes → decode bytes = lift (Codec.decode bytes)) ∧
      (Overflows bytes → (∃ h, Codec.readHeader bytes = .ok h ∧ h.mode = .u64) ∧
        decode bytes = .error (.fault .overflow) ∧
        Codec.decode bytes = .error (.outOfBounds .nameTable)) := by
  refine ⟨readHeader_eq small, decode_of_not_overflows small, ?_⟩
  intro far
  exact ⟨far.u64, decode_of_overflows small far⟩

/-- A log without lines and with an empty channel, whose name table has one entry. -/
def oneName (offset length : Nat) : ByteArray :=
  ⟨([2, 0, 0, 0, 0, 0, 0, 0] ++
    [0, 8, 0, 0, 0, 96, 0, 0, 0, 0, 0, 1, offset, length].flatMap
      (ByteOrder.little.bytes 8)).toArray⟩

theorem size_oneName_le (offset length : Nat) : (oneName offset length).size ≤ maxBytes := by
  have size : (oneName offset length).size = 120 := rfl
  rw [size]
  decide

theorem decode_oneName_empty : (decode (oneName 0 0)).isOk = true := by
  cbv

theorem decode_oneName_top : decode (oneName top 1) = .error (.fault .overflow) := by
  cbv

/-- The one entry says that the name is empty, or that it stops beyond the words. -/
theorem decode_unless_overflows_oneName :
    (oneName 0 0).size ≤ maxBytes ∧ ¬Overflows (oneName 0 0) ∧
      decode (oneName 0 0) = lift (Codec.decode (oneName 0 0)) ∧
      (oneName top 1).size ≤ maxBytes ∧ Overflows (oneName top 1) ∧
      decode (oneName top 1) = .error (.fault .overflow) ∧
      Codec.decode (oneName top 1) = .error (.outOfBounds .nameTable) := by
  have small := size_oneName_le 0 0
  have small' := size_oneName_le top 1
  obtain ⟨-, agrees, stops⟩ := decode_unless_overflows (oneName 0 0) small
  obtain ⟨-, agrees', stops'⟩ := decode_unless_overflows (oneName top 1) small'
  have never : ¬Overflows (oneName 0 0) := by
    intro far
    have read := decode_oneName_empty
    rw [(stops far).2.1] at read
    cases read
  have far : Overflows (oneName top 1) := by
    by_contra never
    exact lift_ne_fault ((agrees' never).symm.trans decode_oneName_top)
  exact ⟨small, never, agrees never, small', far, (stops' far).2⟩

/-- An entry that stops beyond the words stops the machine. -/
theorem not_forall_refused :
    ¬∀ bytes : ByteArray, bytes.size ≤ maxBytes → ∀ f, decode bytes ≠ .error (.fault f) := by
  intro never
  exact never (oneName top 1) (size_oneName_le top 1) .overflow decode_oneName_top

end Machine

end Scrollback.Codec
