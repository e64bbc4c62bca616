/-
When a log is written, and what is written.  A valid log whose authors are all among its names is
written exactly when its size fits the mode (`encode_eq_ok_of_authors`): every count, offset and
size in it is at most that size, so no other number can be too great.  Otherwise the failure is an
overflow (`encode_cases`).  The mode that is chosen for a log holds it whenever some mode does
(`exists_encode_narrowest`).
-/
import Scrollback.Proofs.Codec.Encoder
import Scrollback.Proofs.Log.Names

namespace Scrollback.Codec

/-! ### Authors -/

/-- Where all authors are named, each of them has a number. -/
theorem exists_authorNumbers {log : Log} (increase : log.NamesIncrease)
    (named : log.AuthorsNamed) : ∃ authors, authorNumbers log = .ok authors := by
  suffices ∀ ls : List Remark, (∀ l ∈ ls, l.author ∈ log.nameTexts) →
      ∃ is, List.Forall₂ (fun (l : Remark) i => log.nameIndex? l.author = some i) ls is by
    obtain ⟨is, h⟩ := this log.remarks named
    exact ⟨is, authorNumbers_eq_ok.mpr h⟩
  intro ls
  induction ls with
  | nil => exact fun _ => ⟨[], .nil⟩
  | cons l ls ih =>
    intro h
    obtain ⟨i, hi⟩ := (Log.exists_nameIndex? increase).mpr (h l List.mem_cons_self)
    obtain ⟨is, his⟩ := ih fun l hl => h l (List.mem_cons_of_mem _ hl)
    exact ⟨i :: is, .cons hi his⟩

/-- The number of an author is the place of a name. -/
theorem lt_of_authorNumbers {log : Log} (increase : log.NamesIncrease) {authors : List Nat}
    (h : authorNumbers log = .ok authors) : ∀ i ∈ authors, i < log.nameTexts.length := by
  intro i hi
  obtain ⟨l, -, hl⟩ := (authorNumbers_eq_ok.mp h).exists_left hi
  exact (List.getElem?_eq_some_iff.mp ((Log.nameIndex?_eq_some increase).mp hl)).1

/-! ### When writing succeeds -/

/-- A valid log is written when its numbers and its size fit the mode. -/
theorem encode_eq_ok {log : Log} {m : Mode} {o : ByteOrder} {out : List UInt8} :
    encode log m o = .ok out ↔
      log.valid = true ∧ ∃ authors, authorNumbers log = .ok authors ∧
        Field.Bounded m.max (partsOf log authors).flatten ∧
        writtenSize log m authors ≤ m.max ∧ writtenBytes log m o authors = out := by
  simp only [encode_eq, Except.bind_eq_ok, Except.throw_if_bind_eq_ok, Except.pure_eq_ok,
    Field.check_eq_ok]
  constructor
  · rintro ⟨hvalid, -, -, authors, hauthors, -, hparts, hsize, hout⟩
    exact ⟨by simpa using hvalid, authors, hauthors, hparts, Nat.not_lt.mp hsize, hout⟩
  · rintro ⟨hvalid, authors, hauthors, hparts, hsize, hout⟩
    refine ⟨by simpa using hvalid, (), ?_, authors, hauthors, (), hparts, Nat.not_lt.mpr hsize, hout⟩
    rw [partsOf, List.flatten_append, Field.bounded_append] at hparts
    exact hparts.1

/-- A valid log with numbered authors is written when its size fits the mode. -/
theorem encode_eq_ok_of_authors {log : Log} {m : Mode} {o : ByteOrder} {authors : List Nat}
    (valid : log.valid = true) (increase : log.NamesIncrease)
    (hauthors : authorNumbers log = .ok authors) (fits : writtenSize log m authors ≤ m.max) :
    encode log m o = .ok (writtenBytes log m o authors) := by
  have numbered := lt_of_authorNumbers increase hauthors
  exact encode_eq_ok.mpr
    ⟨valid, authors, hauthors, (bounded_partsOf m numbered).mono fits, fits, rfl⟩

/-- The only failure of a valid log with numbered authors is a number that the mode cannot hold. -/
theorem encode_cases {log : Log} {authors : List Nat} (m : Mode) (o : ByteOrder)
    (valid : log.valid = true) (hauthors : authorNumbers log = .ok authors) :
    (∃ out, encode log m o = .ok out) ∨
      ∃ n, m.max < n ∧ encode log m o = .error (.overflow n m) := by
  have opened : encode log m o = (do
      Field.check m [channelPart log.id, userPart log.id].flatten
      Field.check m (partsOf log authors).flatten
      if m.max < writtenSize log m authors then throw (.overflow (writtenSize log m authors) m)
      pure (writtenBytes log m o authors)) := by
    rw [encode_eq, valid, hauthors]
    rfl
  rw [opened]
  rcases Field.check_cases m [channelPart log.id, userPart log.id].flatten with h | ⟨n, hn, h⟩
  · rw [h]
    rcases Field.check_cases m (partsOf log authors).flatten with h | ⟨n, hn, h⟩
    · rw [h]
      by_cases hsize : m.max < writtenSize log m authors
      · right
        refine ⟨_, hsize, ?_⟩
        simp only [if_pos hsize]
        rfl
      · left
        refine ⟨writtenBytes log m o authors, ?_⟩
        simp only [if_neg hsize]
        rfl
    · rw [h]
      exact .inr ⟨n, hn, rfl⟩
  · rw [h]
    exact .inr ⟨n, hn, rfl⟩

/-! ### The narrowest mode -/

theorem length_flatten (pieces : List (List UInt8)) :
    pieces.flatten.length = total (pieces.map List.length) := by
  induction pieces with
  | nil => rfl
  | cons b pieces ih => simp [ih]

theorem total_map_le {α : Type} {xs : List α} {f g : α → Nat} (h : ∀ x ∈ xs, f x ≤ g x) :
    total (xs.map f) ≤ total (xs.map g) := by
  induction xs with
  | nil => exact Nat.le_refl _
  | cons x xs ih =>
    exact Nat.add_le_add (h x List.mem_cons_self) (ih fun y hy => h y (List.mem_cons_of_mem _ hy))

/-- A log takes no more bytes than are reckoned for it. -/
theorem writtenSize_le_sizeBound {log : Log} (m : Mode) {authors : List Nat}
    (hauthors : authorNumbers log = .ok authors) : writtenSize log m authors ≤ sizeBound log m := by
  have count := length_authorNumbers hauthors
  have names : (log.nameTexts.map utf8).flatten.length =
      total (log.nameTexts.map String.utf8ByteSize) := by
    rw [length_flatten, List.map_map]
    congr 1
  -- a message that is cut out of the text is no longer than its span says
  have messages : (log.remarks.map fun l => utf8 l.message).flatten.length ≤
      total (log.lines.toList.map fun l => l.message.length) := by
    rw [length_flatten, Log.remarks, List.map_map, List.map_map]
    exact total_map_le fun l _ => l.message.length_utf8_textIn_le log.data
  have user : Field.sizes m (userPart log.id) ≤ m.width + log.id.user.utf8ByteSize := by
    rw [userPart]
    split
    · exact Nat.zero_le _
    · rw [sizes_sized, length_utf8]
  -- parts that may be absent are reckoned as if they were there
  have blob : ∀ (none : Bool) (bytes : List UInt8),
      Field.sizes m (if none then [] else sized bytes) ≤ m.width + bytes.length := by
    intro none bytes
    cases none with
    | false => exact (sizes_sized m bytes).le
    | true => exact Nat.zero_le _
  have table : Field.sizes m (if (log.nameTexts.map utf8).isEmpty then []
      else .word log.nameTexts.length :: extents 0 (log.nameTexts.map utf8)) ≤
      m.width + 2 * m.width * log.names.size := by
    split
    · exact Nat.zero_le _
    · rw [Field.sizes_cons, sizes_extents, Field.size, List.length_map, Log.nameTexts,
        List.length_map, Array.length_toList, Nat.mul_comm]
  have nameBlob := blob (log.nameTexts.map utf8).isEmpty (log.nameTexts.map utf8).flatten
  have messageBlob := blob (log.remarks.map fun l => utf8 l.message).isEmpty
    (log.remarks.map fun l => utf8 l.message).flatten
  have lines : log.lines.size * (8 + 3 * m.width) =
      log.lines.size * 8 + (log.lines.size * m.width + log.lines.size * (2 * m.width)) := by
    ring
  rw [writtenSize, sizeBound, partsOf, channelPart, textParts, lines]
  simp only [List.cons_append, List.nil_append, List.flatten_cons, List.flatten_nil,
    List.append_nil, Field.sizes_append, sizes_sized, length_utf8, sizes_map_stamp,
    sizes_map_word, sizes_extents, List.length_map, Array.length_toList, count]
  rw [length_remarks]
  omega

/-- A log whose reckoned size fits a mode is written in that mode. -/
theorem exists_encode_of_sizeBound {log : Log} {m : Mode} {o : ByteOrder} {authors : List Nat}
    (valid : log.valid = true) (increase : log.NamesIncrease)
    (hauthors : authorNumbers log = .ok authors) (fits : sizeBound log m ≤ m.max) :
    ∃ out, encode log m o = .ok out :=
  ⟨_, encode_eq_ok_of_authors valid increase hauthors
    ((writtenSize_le_sizeBound m hauthors).trans fits)⟩

/-- Messages that are altogether longer than a mode can say are refused. -/
theorem encode_of_long_messages {log : Log} {authors : List Nat} (m : Mode) (o : ByteOrder)
    (valid : log.valid = true) (hauthors : authorNumbers log = .ok authors)
    (long : m.max < (log.remarks.map fun l => utf8 l.message).flatten.length) :
    ∃ n, encode log m o = .error (.overflow n m) := by
  rcases encode_cases m o valid hauthors with ⟨out, written⟩ | ⟨n, -, refused⟩
  · obtain ⟨-, _, -, bounded, -⟩ := encode_eq_ok.mp written
    have some : ¬(log.remarks.map fun l => utf8 l.message).isEmpty = true := by
      intro none
      rw [List.isEmpty_iff.mp none] at long
      exact Nat.not_lt_zero _ long
    -- their length is one of the numbers that are written
    have small := bounded (log.remarks.map fun l => utf8 l.message).flatten.length (by
      simp [partsOf, textParts, some, sized])
    exact absurd long (Nat.not_lt.mpr small)
  · exact ⟨n, refused⟩

/-- A log that can be written at all can be written in the mode that is chosen for it. -/
theorem exists_encode_narrowest {log : Log} {o : ByteOrder} {out : List UInt8}
    (increase : log.NamesIncrease) (widest : encode log .u64 o = .ok out) :
    ∃ out, encode log (narrowest log) o = .ok out := by
  obtain ⟨valid, authors, hauthors, -⟩ := encode_eq_ok.mp widest
  rw [narrowest]
  rcases chosen : Mode.all.find? fun m => sizeBound log m ≤ m.max with - | m
  · exact ⟨out, widest⟩
  · have fits : sizeBound log m ≤ m.max := by simpa using List.find?_some chosen
    exact exists_encode_of_sizeBound valid increase hauthors fits

end Scrollback.Codec
