/-
The layout of a stored log as lists of fields: numbers, times and stretches of bytes.  `Field.size` and
`Field.bytes` measure and write a field, `channelPart`, `userPart` and `textParts` are the parts of a
log, `offsets` are the places at which parts begin that follow one another, and `headerFields` is what
stands in front of them.

`Field.check` fails with the first number that a mode cannot hold.  Where every number is at most a bound
(`Field.Bounded`), and the bound fits the mode, it does not fail.
-/
import Scrollback.Codec.Encode
import Scrollback.Proofs.Codec.Number

namespace Scrollback.Codec

/-- One item of a stored log. -/
inductive Field where
  /-- A count, an offset or a size. -/
  | word (n : Nat)
  /-- A number of milliseconds. -/
  | stamp (millis : Int)
  /-- Bytes as they are. -/
  | raw (bytes : List UInt8)
  deriving DecidableEq, Repr

namespace Field

/-- How many bytes a field takes. -/
def size (m : Mode) : Field → Nat
  | .word _ => m.width
  | .stamp _ => 8
  | .raw bytes => bytes.length

/-- The bytes of a field. -/
def bytes (m : Mode) (o : ByteOrder) : Field → List UInt8
  | .word n => o.bytes m.width n
  | .stamp millis => o.bytes 8 (wordOfInt millis)
  | .raw bytes => bytes

/-- How many bytes some fields take. -/
def sizes (m : Mode) (fields : List Field) : Nat :=
  total (fields.map (size m))

/-- The first number that a mode cannot hold. -/
def overflow? (m : Mode) (fields : List Field) : Option Nat :=
  fields.findSome? fun
    | .word n => if n ≤ m.max then none else some n
    | _ => none

/-- Every number fits the mode. -/
def check (m : Mode) (fields : List Field) : Except CodecError Unit :=
  match overflow? m fields with
  | none => .ok ()
  | some n => .error (.overflow n m)

@[simp] theorem sizes_nil (m : Mode) : sizes m [] = 0 := rfl

@[simp] theorem sizes_cons (m : Mode) (f : Field) (fields : List Field) :
    sizes m (f :: fields) = f.size m + sizes m fields := rfl

@[simp] theorem sizes_append (m : Mode) (fields more : List Field) :
    sizes m (fields ++ more) = sizes m fields + sizes m more := by
  simp [sizes]

@[simp] theorem length_bytes (m : Mode) (o : ByteOrder) (f : Field) :
    (f.bytes m o).length = f.size m := by
  cases f <;> simp [bytes, size]

/-- Fields take as many bytes as their sizes say. -/
@[simp] theorem length_flatMap_bytes (m : Mode) (o : ByteOrder) (fields : List Field) :
    (fields.flatMap (bytes m o)).length = sizes m fields := by
  induction fields with
  | nil => rfl
  | cons f fields ih => simp [ih]

/-- No number among some fields is greater than a bound. -/
def Bounded (bound : Nat) (fields : List Field) : Prop :=
  ∀ n, .word n ∈ fields → n ≤ bound

theorem Bounded.mono {a b : Nat} {fields : List Field} (h : Bounded a fields) (hab : a ≤ b) :
    Bounded b fields := fun n hn => (h n hn).trans hab

theorem bounded_append {bound : Nat} {fields more : List Field} :
    Bounded bound (fields ++ more) ↔ Bounded bound fields ∧ Bounded bound more := by
  simp only [Bounded, List.mem_append, or_imp, forall_and]

/-- Numbers pass the check exactly when they fit the mode. -/
theorem check_eq_ok {m : Mode} {fields : List Field} {u : Unit} :
    check m fields = .ok u ↔ Bounded m.max fields := by
  have none_iff : overflow? m fields = none ↔ Bounded m.max fields := by
    rw [overflow?, List.findSome?_eq_none_iff]
    constructor
    · intro h n hn
      have := h _ hn
      simpa using this
    · rintro h (n | millis | bytes) hf
      · simpa using h n hf
      · rfl
      · rfl
  rw [← none_iff, check]
  rcases overflow? m fields with - | n <;> simp

theorem check_append (m : Mode) (fields more : List Field) :
    check m (fields ++ more) = check m fields >>= fun _ => check m more := by
  simp only [check, overflow?, List.findSome?_append]
  rcases fields.findSome? _ with - | n
  · rfl
  · rfl

/-- The check fails with a number that the mode cannot hold. -/
theorem check_cases (m : Mode) (fields : List Field) :
    check m fields = .ok () ∨ ∃ n, m.max < n ∧ check m fields = .error (.overflow n m) := by
  rw [check]
  rcases h : overflow? m fields with - | n
  · exact .inl rfl
  · refine .inr ⟨n, ?_, rfl⟩
    obtain ⟨f, -, hf⟩ := List.exists_of_findSome?_eq_some h
    rcases f with k | millis | bytes
    · by_cases hk : k ≤ m.max
      · simp [hk] at hf
      · simp only [hk, if_false, Option.some_inj] at hf
        omega
    · cases hf
    · cases hf

end Field

/-! ### Parts -/

/-- A stretch of bytes with its size in front. -/
def sized (bytes : List UInt8) : List Field :=
  [.word bytes.length, .raw bytes]

/-- Offsets and sizes of stretches that follow one another. -/
def extents : Nat → List (List UInt8) → List Field
  | _, [] => []
  | start, b :: rest => .word start :: .word b.length :: extents (start + b.length) rest

/-- The channel. -/
def channelPart (id : LogId) : List Field :=
  sized (utf8 id.channel)

/-- The user, if there is one. -/
def userPart (id : LogId) : List Field :=
  if id.user = "" then [] else sized (utf8 id.user)

/-- The parts after the user, for the distinct names, and the times, author numbers and messages
of the lines. -/
def textParts (names : List (List UInt8)) (times : List Int) (authors : List Nat)
    (messages : List (List UInt8)) : List (List Field) :=
  [if names.isEmpty then [] else sized names.flatten,
    if messages.isEmpty then [] else sized messages.flatten,
    if names.isEmpty then [] else .word names.length :: extents 0 names,
    times.map .stamp,
    authors.map .word,
    extents 0 messages]

/-- Where each part begins, the first of them at `start`; zero for an absent part. -/
def offsets (m : Mode) : Nat → List (List Field) → List Nat
  | _, [] => []
  | start, part :: rest =>
    (if part.isEmpty then 0 else start) :: offsets m (start + Field.sizes m part) rest

/-- The header: line count, offsets of the parts, period. -/
def headerFields (m : Mode) (log : Log) (parts : List (List Field)) : List Field :=
  .word log.lines.size :: (offsets m (headerSize m) parts).map .word ++
    [.stamp log.id.period.start, .stamp log.id.period.stop]

/-! ### Whole logs -/

theorem length_nameTexts (log : Log) : log.nameTexts.length = log.names.size := by
  rw [Log.nameTexts, List.length_map, Array.length_toList]

theorem length_remarks (log : Log) : log.remarks.length = log.lines.size := by
  rw [Log.remarks, List.length_map, Array.length_toList]

/-- The parts of a log, whose authors have the given numbers. -/
def partsOf (log : Log) (authors : List Nat) : List (List Field) :=
  [channelPart log.id, userPart log.id] ++ textParts (log.nameTexts.map utf8)
    (log.lines.toList.map fun l => l.time.epochMillis) authors
    (log.remarks.map fun l => utf8 l.message)

/-- The size of a log, written in parts. -/
def writtenSize (log : Log) (m : Mode) (authors : List Nat) : Nat :=
  headerSize m + Field.sizes m (partsOf log authors).flatten

/-- The bytes of a log, written in parts. -/
def writtenBytes (log : Log) (m : Mode) (o : ByteOrder) (authors : List Nat) : List UInt8 :=
  [m.tag, o.tag] ++ List.replicate (preambleSize - 2) 0 ++
    (headerFields m log (partsOf log authors) ++ (partsOf log authors).flatten).flatMap
      (Field.bytes m o)

@[simp] theorem sizes_map_stamp (m : Mode) (times : List Int) :
    Field.sizes m (times.map .stamp) = times.length * 8 := by
  induction times with
  | nil => rfl
  | cons t times ih =>
    simp only [List.map_cons, Field.sizes_cons, ih, Field.size, List.length_cons]
    omega

@[simp] theorem sizes_map_word (m : Mode) (ns : List Nat) :
    Field.sizes m (ns.map .word) = ns.length * m.width := by
  induction ns with
  | nil => simp
  | cons n ns ih =>
    simp only [List.map_cons, Field.sizes_cons, ih, Field.size, List.length_cons]
    rw [Nat.succ_mul, Nat.add_comm]

theorem length_offsets (m : Mode) (start : Nat) (parts : List (List Field)) :
    (offsets m start parts).length = parts.length := by
  induction parts generalizing start with
  | nil => rfl
  | cons part rest ih => simp [offsets, ih]

/-- Nine numbers and two times. -/
theorem sizes_headerFields (log : Log) (m : Mode) (authors : List Nat) :
    Field.sizes m (headerFields m log (partsOf log authors)) = headerWords * m.width + 16 := by
  simp only [headerFields, List.cons_append, Field.sizes_cons, Field.sizes_append,
    sizes_map_word, length_offsets]
  simp only [partsOf, textParts, Field.size, Field.sizes_nil, List.length_append,
    List.length_cons, List.length_nil, headerWords]
  omega

theorem length_writtenBytes (log : Log) (m : Mode) (o : ByteOrder) (authors : List Nat) :
    (writtenBytes log m o authors).length = writtenSize log m authors := by
  rw [writtenBytes, List.length_append, Field.length_flatMap_bytes, Field.sizes_append,
    sizes_headerFields, writtenSize, headerSize]
  simp [preambleSize]
  omega

/-! ### Sizes bound numbers -/

/-- The places of further parts. -/
theorem offsets_append (m : Mode) (start : Nat) (parts more : List (List Field)) :
    offsets m start (parts ++ more) =
      offsets m start parts ++ offsets m (start + Field.sizes m parts.flatten) more := by
  induction parts generalizing start with
  | nil => rfl
  | cons part rest ih => simp [offsets, ih, Nat.add_assoc]

/-- No offset lies beyond the last part. -/
theorem offsets_le {m : Mode} {place offset : Nat} {parts : List (List Field)}
    (h : offset ∈ offsets m place parts) : offset ≤ place + Field.sizes m parts.flatten := by
  induction parts generalizing place with
  | nil => simp [offsets] at h
  | cons p rest ih =>
    rw [List.flatten_cons, Field.sizes_append]
    rcases List.mem_cons.mp h with rfl | h
    · split <;> omega
    · have := ih h
      omega

theorem Mode.width_pos (m : Mode) : 0 < m.width := by
  cases m <;> decide

theorem sizes_sized (m : Mode) (bytes : List UInt8) :
    Field.sizes m (sized bytes) = m.width + bytes.length := by
  simp [sized, Field.size]

theorem bounded_sized (m : Mode) (bytes : List UInt8) :
    Field.Bounded (Field.sizes m (sized bytes)) (sized bytes) := by
  intro n hn
  rw [sizes_sized]
  simp only [sized, List.mem_cons, Field.word.injEq, reduceCtorEq, List.not_mem_nil,
    or_false] at hn
  omega

@[simp] theorem sizes_extents (m : Mode) (start : Nat) (pieces : List (List UInt8)) :
    Field.sizes m (extents start pieces) = pieces.length * (2 * m.width) := by
  induction pieces generalizing start with
  | nil => simp [extents]
  | cons b rest ih =>
    simp only [extents, Field.sizes_cons, ih, Field.size, List.length_cons]
    rw [Nat.add_mul]
    omega

theorem bounded_extents (start : Nat) (pieces : List (List UInt8)) :
    Field.Bounded (start + pieces.flatten.length) (extents start pieces) := by
  induction pieces generalizing start with
  | nil => simp [Field.Bounded, extents]
  | cons b rest ih =>
    intro n hn
    simp only [extents, List.mem_cons, Field.word.injEq] at hn
    rw [List.flatten_cons, List.length_append]
    rcases hn with rfl | rfl | hn
    · omega
    · omega
    · have := ih _ n hn
      omega

/-- Every number in the text parts is at most the size of the parts. -/
theorem bounded_textParts (m : Mode) (names messages : List (List UInt8)) (times : List Int)
    (authors : List Nat) (h : ∀ i ∈ authors, i < names.length) :
    Field.Bounded (Field.sizes m (textParts names times authors messages).flatten)
      (textParts names times authors messages).flatten := by
  have hw := Mode.width_pos m
  simp only [textParts, List.flatten_cons, List.flatten_nil, List.append_nil, Field.sizes_append,
    Field.bounded_append]
  refine ⟨?_, ?_, ?_, ?_, ?_, ?_⟩
  · -- the names
    rcases names.isEmpty with - | -
    · exact (bounded_sized m _).mono (by simp)
    · simp [Field.Bounded]
  · -- the messages
    rcases messages.isEmpty with - | -
    · exact (bounded_sized m _).mono (by simp; omega)
    · simp [Field.Bounded]
  · -- the name table: its spans are spans of the names
    rcases e : names.isEmpty with - | -
    · intro n hn
      simp only [Bool.false_eq_true, if_false, List.mem_cons, Field.word.injEq] at hn
      simp only [Bool.false_eq_true, if_false, sizes_sized, Field.sizes_cons, sizes_extents]
      rcases hn with rfl | hn
      · have : names.length ≤ names.length * (2 * m.width) := Nat.le_mul_of_pos_right _ (by omega)
        omega
      · have := bounded_extents 0 names n hn
        omega
    · simp [Field.Bounded]
  · simp [Field.Bounded]
  · -- the authors: each is the number of a name
    intro n hn
    obtain ⟨i, hi, hin⟩ := List.mem_map.mp hn
    cases hin
    have lt := h n hi
    have nonempty : names.isEmpty = false := by
      rw [List.isEmpty_eq_false_iff, ← List.length_pos_iff]
      omega
    have le : names.length ≤ names.length * (2 * m.width) := Nat.le_mul_of_pos_right _ (by omega)
    simp only [nonempty, Bool.false_eq_true, if_false, Field.sizes_cons, sizes_extents]
    omega
  · -- the message table: its spans are spans of the messages
    intro n hn
    have le := bounded_extents 0 messages n hn
    rcases e : messages.isEmpty with - | -
    · simp only [Bool.false_eq_true, if_false, sizes_sized]
      omega
    · rw [List.isEmpty_iff] at e
      subst e
      simp [extents] at hn

/-- Every number in the parts of a log is at most the size of the log. -/
theorem bounded_partsOf {log : Log} (m : Mode) {authors : List Nat}
    (h : ∀ i ∈ authors, i < log.nameTexts.length) :
    Field.Bounded (writtenSize log m authors) (partsOf log authors).flatten := by
  have texts := bounded_textParts m (log.nameTexts.map utf8)
    (log.remarks.map fun l => utf8 l.message)
    (log.lines.toList.map fun l => l.time.epochMillis) authors (by simpa using h)
  rw [writtenSize, partsOf, List.flatten_append, Field.sizes_append, Field.bounded_append]
  refine ⟨?_, texts.mono (by omega)⟩
  simp only [List.flatten_cons, List.flatten_nil, List.append_nil, Field.sizes_append,
    Field.bounded_append]
  constructor
  · exact (bounded_sized m _).mono (by rw [channelPart]; omega)
  · rw [userPart]
    split
    · simp [Field.Bounded]
    · exact (bounded_sized m _).mono (by omega)

/-- Every number in the header of a log is at most the size of the log. -/
theorem bounded_headerFields (log : Log) (m : Mode) (authors : List Nat) :
    Field.Bounded (writtenSize log m authors) (headerFields m log (partsOf log authors)) := by
  intro n hn
  simp only [headerFields, List.cons_append, List.mem_cons, Field.word.injEq, List.mem_append,
    List.mem_map, exists_eq_right, reduceCtorEq, List.not_mem_nil, or_self, or_false] at hn
  rcases hn with rfl | hn
  · -- every line has a time of eight bytes
    simp only [writtenSize, partsOf, textParts, List.cons_append, List.nil_append,
      List.flatten_cons, Field.sizes_append, sizes_map_stamp, List.length_map, Array.length_toList]
    omega
  · exact offsets_le hn

end Scrollback.Codec
