/-
Reading what has been written, place by place.

`Stands m o bytes place fields` says that from a place on the bytes are those of some fields.  If a
run of fields stands at a place then each of its fields stands behind those before it
(`Stands.drop`), so a reader at the right place finds just what was written there: a number
(`Stands.word`), a time (`Stands.stamp`), a text with its size in front (`Stands.sized`), the spans
of a table (`Stands.extents`).  The offsets in the header are the right places
(`forall₂_offsets`).
-/
import Scrollback.Proofs.Codec.Reading
import Scrollback.Proofs.Codec.Writing

namespace Scrollback.Codec

variable {m : Mode} {o : ByteOrder} {bytes : List UInt8} {place : Nat} {fields more : List Field}
  {part : CodecPart}

/-- From a place on, the bytes are those of some fields. -/
def Stands (m : Mode) (o : ByteOrder) (bytes : List UInt8) (place : Nat)
    (fields : List Field) : Prop :=
  ∃ before after, bytes = before ++ fields.flatMap (Field.bytes m o) ++ after ∧
    before.length = place

/-- The bytes, as they are read. -/
def sourceOf (m : Mode) (o : ByteOrder) (bytes : List UInt8) : Source :=
  ⟨bytes.toByteArray, m, o⟩

@[simp] theorem mode_sourceOf : (sourceOf m o bytes).mode = m := rfl

theorem size_toByteArray (bytes : List UInt8) : bytes.toByteArray.size = bytes.length := by
  rw [ByteArray.size]
  simp

/-- A stretch of the bytes is what stands between two places. -/
theorem slice_append (before middle after : List UInt8) :
    (sourceOf m o (before ++ middle ++ after)).slice before.length middle.length part =
      .ok middle.toByteArray := by
  rw [Source.slice_eq_ok, sourceOf, size_toByteArray]
  refine ⟨by simp, ?_⟩
  apply ByteArray.ext
  rw [ByteArray.data_extract]
  simp [List.extract_eq_take_drop]

namespace Stands

theorem left (h : Stands m o bytes place (fields ++ more)) : Stands m o bytes place fields := by
  obtain ⟨before, after, rfl, hplace⟩ := h
  exact ⟨before, more.flatMap (Field.bytes m o) ++ after, by simp, hplace⟩

theorem right (h : Stands m o bytes place (fields ++ more)) :
    Stands m o bytes (place + Field.sizes m fields) more := by
  obtain ⟨before, after, rfl, rfl⟩ := h
  refine ⟨before ++ fields.flatMap (Field.bytes m o), after, by simp, ?_⟩
  rw [List.length_append, Field.length_flatMap_bytes]

theorem head {f : Field} (h : Stands m o bytes place (f :: fields)) :
    Stands m o bytes place [f] :=
  @left m o bytes place [f] fields h

theorem tail {f : Field} (h : Stands m o bytes place (f :: fields)) :
    Stands m o bytes (place + f.size m) fields :=
  @right m o bytes place [f] fields h

/-- Behind the first fields stand the others. -/
theorem drop (h : Stands m o bytes place fields) (i : Nat) :
    Stands m o bytes (place + Field.sizes m (fields.take i)) (fields.drop i) := by
  rw [← List.take_append_drop i fields] at h
  exact h.right

/-- What stands in the bytes lies within them. -/
theorem le_length (h : Stands m o bytes place fields) :
    place + Field.sizes m fields ≤ bytes.length := by
  obtain ⟨before, after, rfl, rfl⟩ := h
  rw [List.length_append, List.length_append, Field.length_flatMap_bytes]
  omega

/-! ### Single fields -/

theorem slice {f : Field} (h : Stands m o bytes place (f :: fields)) :
    (sourceOf m o bytes).slice place (f.size m) part = .ok (f.bytes m o).toByteArray := by
  obtain ⟨before, after, rfl, rfl⟩ := h.head
  have middle : (sourceOf m o (before ++ f.bytes m o ++ after)).slice before.length
      (f.bytes m o).length part = .ok (f.bytes m o).toByteArray := slice_append before _ after
  simpa using middle

theorem word {n : Nat} (h : Stands m o bytes place (.word n :: fields)) (hn : n ≤ m.max) :
    (sourceOf m o bytes).word place part = .ok n := by
  have stretch : (sourceOf m o bytes).slice place m.width part = _ := h.slice
  rw [Source.word, mode_sourceOf, stretch, Field.bytes]
  show Except.ok (o.number (o.bytes m.width n).toByteArray.data.toList) = _
  rw [List.data_toByteArray, o.number_bytes (Nat.lt_of_le_of_lt hn m.max_lt)]

theorem stamp {millis : Int} (h : Stands m o bytes place (.stamp millis :: fields))
    (low : -9223372036854775808 ≤ millis) (high : millis < 9223372036854775808) :
    (sourceOf m o bytes).stamp place part = .ok millis := by
  have stretch : (sourceOf m o bytes).slice place 8 part = _ := h.slice
  rw [Source.stamp, stretch, Field.bytes]
  show Except.ok (intOfWord (o.number (o.bytes 8 (wordOfInt millis)).toByteArray.data.toList)) = _
  rw [List.data_toByteArray, o.number_bytes (wordOfInt_lt millis), intOfWord_wordOfInt low high]

/-- A stretch with its size in front. -/
theorem sized {piece : List UInt8} (h : Stands m o bytes place (Codec.sized piece))
    (fits : piece.length ≤ m.max) :
    (sourceOf m o bytes).sized place part = .ok piece.toByteArray := by
  rw [Source.sized_eq_ok]
  exact ⟨piece.length, h.word fits, h.tail.slice⟩

theorem room {count size : Nat} (h : Stands m o bytes place fields)
    (hsize : Field.sizes m fields = count * size) :
    (sourceOf m o bytes).room place count size part = .ok () := by
  rw [Source.room_eq_ok, sourceOf, size_toByteArray, ← hsize]
  exact h.le_length

/-! ### Runs of fields -/

/-- The `i`-th of some numbers. -/
theorem words {ns : List Nat} (h : Stands m o bytes place (ns.map .word ++ fields))
    (fits : Field.Bounded m.max (ns.map .word)) {i : Nat} (hi : i < ns.length) :
    (sourceOf m o bytes).word (place + i * m.width) part = .ok ns[i] := by
  have rest := h.left.drop i
  rw [← List.map_take, ← List.map_drop, sizes_map_word, List.length_take_of_le (by omega),
    List.drop_eq_getElem_cons hi, List.map_cons] at rest
  exact rest.word (fits _ (List.mem_map_of_mem (List.getElem_mem hi)))

/-- The `i`-th of some times. -/
theorem stamps {times : List Int} (h : Stands m o bytes place (times.map .stamp))
    {i : Nat} (hi : i < times.length) (low : -9223372036854775808 ≤ times[i])
    (high : times[i] < 9223372036854775808) :
    (sourceOf m o bytes).stamp (place + i * 8) part = .ok times[i] := by
  have rest := h.drop i
  rw [← List.map_take, ← List.map_drop, sizes_map_stamp, List.length_take_of_le (by omega),
    List.drop_eq_getElem_cons hi, List.map_cons] at rest
  exact rest.stamp low high

/-- The `i`-th span of a table. -/
theorem extents {start : Nat} {pieces : List (List UInt8)} {i : Nat} {span : Span}
    (h : Stands m o bytes place (extents start pieces))
    (fits : Field.Bounded m.max (Codec.extents start pieces))
    (hspan : (stretches start pieces)[i]? = some span) :
    (sourceOf m o bytes).word (place + i * (2 * m.width)) part = .ok span.offset ∧
      (sourceOf m o bytes).word (place + i * (2 * m.width) + m.width) part = .ok span.length := by
  induction pieces generalizing start place i with
  | nil => simp [stretches] at hspan
  | cons b rest ih =>
    rw [Codec.extents] at h fits
    cases i with
    | zero =>
      obtain rfl : ⟨start, b.length⟩ = span := by simpa [stretches] using hspan
      rw [Nat.zero_mul, Nat.add_zero]
      exact ⟨h.word (fits _ (by simp)), h.tail.word (fits _ (by simp))⟩
    | succ i =>
      have later := h.tail.tail
      have next := ih later (fun n hn => fits n (by simp [hn])) (by simpa [stretches] using hspan)
      have hplace : place + (i + 1) * (2 * m.width) =
          place + m.width + m.width + i * (2 * m.width) := by
        rw [Nat.add_mul]
        omega
      rw [hplace]
      exact next

end Stands

/-! ### Parts at their offsets -/

/-- A part stands at its offset, which is zero exactly if the part is absent, and every number in
it fits the mode. -/
structure Placed (m : Mode) (o : ByteOrder) (bytes : List UInt8) (fields : List Field)
    (offset : Nat) : Prop where
  fits : Field.Bounded m.max fields
  absent : fields = [] → offset = 0
  present : fields ≠ [] → offset ≠ 0 ∧ Stands m o bytes offset fields

namespace Placed

variable {offset : Nat} {piece : List UInt8}

/-- A part that is always there. -/
theorem sized (h : Placed m o bytes (Codec.sized piece) offset) :
    offset ≠ 0 ∧ (sourceOf m o bytes).sized offset part = .ok piece.toByteArray := by
  obtain ⟨hoffset, stands⟩ := h.present (by simp [Codec.sized])
  exact ⟨hoffset, stands.sized (h.fits _ (by simp [Codec.sized]))⟩

/-- A part that is left out where it would be empty. -/
theorem sizedOrEmpty {empty : Prop} [Decidable empty]
    (h : Placed m o bytes (if empty then [] else Codec.sized piece) offset)
    (hempty : empty → piece = []) :
    (sourceOf m o bytes).sizedOrEmpty offset part = .ok piece.toByteArray := by
  by_cases he : empty
  · rw [if_pos he] at h
    rw [Source.sizedOrEmpty, if_pos (h.absent rfl), hempty he]
    rfl
  · rw [if_neg he] at h
    obtain ⟨hoffset, read⟩ := h.sized
    rw [Source.sizedOrEmpty, if_neg hoffset, read]

end Placed

/-- The offsets of parts that follow one another are where they stand. -/
theorem forall₂_offsets {parts : List (List Field)} (h : Stands m o bytes place parts.flatten)
    (fits : Field.Bounded m.max parts.flatten) (hplace : place ≠ 0) :
    List.Forall₂ (Placed m o bytes) parts (offsets m place parts) := by
  induction parts generalizing place with
  | nil => exact .nil
  | cons p rest ih =>
    rw [List.flatten_cons] at h fits
    obtain ⟨first, later⟩ := Field.bounded_append.mp fits
    refine .cons ⟨first, ?_, ?_⟩ (ih h.right later (by omega))
    · rintro rfl
      rfl
    · intro hp
      rw [if_neg (by simpa using hp)]
      exact ⟨hplace, h.left⟩

end Scrollback.Codec
