/-
Texts and their bytes.  A text is determined by its bytes, and the bytes of a part are a part of
the bytes.  Main statements: bytes read as a text exactly when they are its bytes
(`Codec.textOf_eq_ok`), and each of the pieces that a text is put together from fits it and is cut
out again by its span (`forall₂_stretches`).
-/
import Mathlib
import Scrollback.Codec.Decode
import Scrollback.Log.Line

namespace Scrollback

/-! ### Bytes of texts -/

@[simp] theorem utf8_empty : utf8 "" = [] := rfl

@[simp] theorem utf8_append (a b : String) : utf8 (a ++ b) = utf8 a ++ utf8 b := by
  simp [utf8]

@[simp] theorem length_utf8 (s : String) : (utf8 s).length = s.utf8ByteSize := by
  rw [utf8, Array.length_toList, String.toUTF8_eq_toByteArray]
  rfl

theorem utf8ByteSize_ofList (cs : List Char) :
    (String.ofList cs).utf8ByteSize = utf8Size cs := by
  induction cs with
  | nil => rfl
  | cons c cs ih =>
    rw [← List.singleton_append, String.ofList_append, String.utf8ByteSize_append, ih,
      utf8Size_append]
    congr 1
    simp

theorem toByteArray_utf8 (s : String) : (utf8 s).toByteArray = s.toUTF8 := by
  apply ByteArray.ext
  simp [utf8]

theorem utf8_inj {a b : String} : utf8 a = utf8 b ↔ a = b := by
  constructor
  · intro h
    rw [← String.toByteArray_inj, ← String.toUTF8_eq_toByteArray, ← toByteArray_utf8, h,
      toByteArray_utf8, String.toUTF8_eq_toByteArray]
  · rintro rfl
    rfl

theorem fromUTF8?_eq_some {bytes : ByteArray} {s : String} :
    String.fromUTF8? bytes = some s ↔ bytes = s.toUTF8 := by
  unfold String.fromUTF8?
  split
  · next h =>
    rw [Option.some_inj, ← String.toByteArray_inj]
    rfl
  · next h =>
    refine iff_of_false (by simp) ?_
    rintro rfl
    exact h s.isValidUTF8

/-- The bytes of a text are those of its characters. -/
theorem utf8_eq_bytesOf (s : String) : utf8 s = bytesOf s.toList := by
  show s.toByteArray.data.toList = _
  rw [← String.utf8Encode_toList, List.utf8Encode, List.data_toByteArray]
  rfl

/-- Bytes read as a text exactly when they are the bytes of the text. -/
theorem Codec.textOf_eq_ok {bytes : ByteArray} {s : String} :
    Codec.textOf bytes = .ok s ↔ bytes = (utf8 s).toByteArray := by
  rw [toByteArray_utf8, ← fromUTF8?_eq_some, Codec.textOf]
  rcases String.fromUTF8? bytes with - | t <;> simp

@[simp] theorem text?_utf8 (s : String) : text? (utf8 s) = some s := by
  rw [text?, fromUTF8?_eq_some, toByteArray_utf8]

/-- The bytes of texts that are put together are those of the one after those of the other. -/
theorem utf8_join (xs : List String) : utf8 (String.join xs) = (xs.map utf8).flatten := by
  have folded : ∀ (s : String), utf8 (xs.foldl (· ++ ·) s) = utf8 s ++ (xs.map utf8).flatten := by
    induction xs with
    | nil => simp
    | cons x xs ih =>
      intro s
      rw [List.foldl_cons, ih]
      simp
  rw [String.join, folded]
  rfl

/-! ### Spans of texts -/

namespace Span

/-- The bytes that a span cuts out of a text which it fits. -/
theorem utf8_textIn {s : Span} {text : String} (h : s.Fits text) :
    utf8 (s.textIn text) = ((utf8 text).drop s.offset).take s.length := by
  rw [textIn, dif_pos h, utf8, utf8, String.toUTF8_eq_toByteArray, String.toByteArray_extract,
    ByteArray.data_extract, Array.toList_extract, List.extract_eq_take_drop]
  simp [stop]

/-- A span cuts out no more bytes than it has. -/
theorem length_utf8_textIn_le (s : Span) (text : String) :
    (utf8 (s.textIn text)).length ≤ s.length := by
  by_cases h : s.Fits text
  · rw [utf8_textIn h]
    exact List.length_take_le _ _
  · rw [textIn, dif_neg h]
    exact Nat.zero_le _

/-- A span that fits a text lies inside it. -/
theorem stop_le_of_fits {s : Span} {text : String} (h : s.Fits text) :
    s.stop ≤ text.utf8ByteSize :=
  h.2.le_rawEndPos

/-- A span that fits cuts out all its bytes. -/
theorem utf8ByteSize_textIn {s : Span} {text : String} (h : s.Fits text) :
    (s.textIn text).utf8ByteSize = s.length := by
  have inside := stop_le_of_fits h
  rw [stop] at inside
  rw [← length_utf8, utf8_textIn h, List.length_take, List.length_drop, length_utf8]
  omega

/-- The span of a middle part fits the whole. -/
theorem fits_append (a b c : String) :
    (⟨a.utf8ByteSize, b.utf8ByteSize⟩ : Span).Fits (a ++ b ++ c) := by
  constructor
  · rw [String.Pos.Raw.isValid_iff_exists_append]
    exact ⟨a, b ++ c, String.append_assoc, rfl⟩
  · rw [String.Pos.Raw.isValid_iff_exists_append]
    refine ⟨a ++ b, c, rfl, ?_⟩
    rw [String.Pos.Raw.ext_iff]
    simp [stop]

/-- The span of a middle part cuts it out. -/
theorem textIn_append (a b c : String) :
    (⟨a.utf8ByteSize, b.utf8ByteSize⟩ : Span).textIn (a ++ b ++ c) = b := by
  rw [← utf8_inj, utf8_textIn (fits_append a b c)]
  simp [← length_utf8, List.append_assoc]

end Span

/-! ### Lines of their own -/

namespace Line

variable (time : Instant) (author message : String)

@[simp] theorem time_make : (make time author message).time = time := rfl

@[simp] theorem author_make : (make time author message).author = author := by
  simpa [Line.author, make] using Span.textIn_append "" author message

@[simp] theorem message_make : (make time author message).message = message := by
  simpa [Line.message, make] using Span.textIn_append author message ""

end Line

/-- The span in a text to which something has been put in front. -/
def Span.moved (s : Span) (base : Nat) : Span :=
  ⟨base + s.offset, s.length⟩

/-- The spans of stretches that follow one another, the first of them at `start`. -/
def stretches : Nat → List (List UInt8) → List Span
  | _, [] => []
  | start, b :: rest => ⟨start, b.length⟩ :: stretches (start + b.length) rest

@[simp] theorem length_stretches (start : Nat) (pieces : List (List UInt8)) :
    (stretches start pieces).length = pieces.length := by
  induction pieces generalizing start with
  | nil => rfl
  | cons b rest ih => simp [stretches, ih]

/-- Stretches further on are the same stretches, moved. -/
theorem stretches_add (base start : Nat) (pieces : List (List UInt8)) :
    stretches (base + start) pieces = (stretches start pieces).map fun s => s.moved base := by
  induction pieces generalizing start with
  | nil => rfl
  | cons b rest ih =>
    rw [stretches, Nat.add_assoc, ih]
    rfl

/-- No stretch ends beyond the last one. -/
theorem stop_le_of_mem_stretches {start : Nat} {pieces : List (List UInt8)} {s : Span}
    (h : s ∈ stretches start pieces) : s.stop ≤ start + pieces.flatten.length := by
  induction pieces generalizing start with
  | nil => simp [stretches] at h
  | cons b rest ih =>
    rw [List.flatten_cons, List.length_append]
    rcases List.mem_cons.mp h with rfl | h
    · simp only [Span.stop]
      omega
    · have := ih h
      omega

/-- Texts that stand one after another in a text are cut out by their spans. -/
theorem forall₂_stretches {text a c : String} {xs : List String}
    (h : utf8 text = utf8 a ++ (xs.map utf8).flatten ++ utf8 c) :
    List.Forall₂ (fun s x => s.Fits text ∧ s.textIn text = x)
      (stretches a.utf8ByteSize (xs.map utf8)) xs := by
  induction xs generalizing a with
  | nil => exact .nil
  | cons x xs ih =>
    have whole : text = a ++ x ++ (String.join xs ++ c) := by
      rw [← utf8_inj, h]
      simp [utf8_join]
    refine .cons ?_ ?_
    · rw [length_utf8, whole]
      exact ⟨Span.fits_append a x _, Span.textIn_append a x _⟩
    · have rest := ih (a := a ++ x) (by rw [h]; simp)
      rwa [String.utf8ByteSize_append, ← length_utf8 x] at rest

end Scrollback
