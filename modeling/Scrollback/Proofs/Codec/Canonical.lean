/-
What a log says fixes how it is written.  Of two logs that say the same, however their texts and
spans came about, the same bytes are written (`Log.WrittenAlike.encode`): names and messages are
written as texts, an author as the place of his name, and a place is found by the name alone.  Of a
time only the milliseconds are written, so that a log which has been read back is written again as
it was, although a leap second in it has become another instant.
-/
import Scrollback.Proofs.Codec.Size

namespace Scrollback

/-- What is written of a line. -/
def Remark.written (l : Remark) : Int × String × String :=
  (l.time.epochMillis, l.author, l.message)

@[simp] theorem Remark.written_restamped (l : Remark) : l.restamped.written = l.written := by
  simp [written, restamped, Instant.restamped]

namespace Log

/-- Two logs of which the same is written: they agree in all but the times, and there in the
milliseconds. -/
structure WrittenAlike (a b : Log) : Prop where
  id : a.id = b.id
  valid : a.valid = b.valid
  names : a.nameTexts = b.nameTexts
  lines : a.remarks.map Remark.written = b.remarks.map Remark.written

variable {a b : Log} {m : Mode}

theorem writtenAlike_of_same (h : a.same b = true) : a.WrittenAlike b := by
  obtain ⟨id, valid, names, lines⟩ := same_eq_true.mp h
  exact ⟨id, valid, names, by rw [lines]⟩

theorem ReadBack.writtenAlike {log back : Log} (h : log.ReadBack back) (valid : log.valid = true) :
    back.WrittenAlike log where
  id := h.id
  valid := h.valid.trans valid.symm
  names := h.names
  lines := by
    rw [h.lines, List.map_map]
    exact List.map_congr_left fun l _ => l.written_restamped

namespace WrittenAlike

/-! ### What is written of the lines -/

/-- What depends on what is written of each line is the same. -/
theorem map_eq (h : a.WrittenAlike b) {α : Type} (f : Int × String × String → α) :
    a.remarks.map (fun l => f l.written) = b.remarks.map fun l => f l.written := by
  have lines := congrArg (List.map f) h.lines
  rwa [List.map_map, List.map_map] at lines

theorem times (h : a.WrittenAlike b) :
    a.lines.toList.map (fun l => l.time.epochMillis) =
      b.lines.toList.map fun l => l.time.epochMillis := by
  have times := h.map_eq Prod.fst
  rwa [remarks, remarks, List.map_map, List.map_map] at times

theorem authors (h : a.WrittenAlike b) : a.remarks.map Remark.author = b.remarks.map Remark.author :=
  h.map_eq fun l => l.2.1

theorem names_size (h : a.WrittenAlike b) : a.names.size = b.names.size := by
  rw [← Codec.length_nameTexts, h.names, Codec.length_nameTexts]

theorem lines_size (h : a.WrittenAlike b) : a.lines.size = b.lines.size := by
  have lines := congrArg List.length h.lines
  rwa [List.length_map, List.length_map, Codec.length_remarks, Codec.length_remarks] at lines

/-- A name has the same place in both. -/
theorem nameIndex?_eq (h : a.WrittenAlike b) (increase : a.NamesIncrease) (name : String) :
    a.nameIndex? name = b.nameIndex? name := by
  have increase' : b.NamesIncrease := by rwa [NamesIncrease, ← h.names]
  -- the names increase, so that the search finds a name just where it stands
  apply Option.ext
  intro i
  rw [nameIndex?_eq_some increase, nameIndex?_eq_some increase', h.names]

theorem authorNumbers (h : a.WrittenAlike b) (increase : a.NamesIncrease) :
    Codec.authorNumbers a = Codec.authorNumbers b := by
  -- a number is looked up by the name alone
  have by_name : ∀ log : Log, Codec.authorNumbers log =
      (log.remarks.map Remark.author).mapM (Codec.authorNumber log) := by
    intro log
    rw [List.mapM_map]
    rfl
  have number : Codec.authorNumber a = Codec.authorNumber b := by
    funext name
    rw [Codec.authorNumber, Codec.authorNumber, h.nameIndex?_eq increase]
  rw [by_name, by_name, h.authors, number]

/-! ### Whole logs -/

/-- The same is written of both, or the same number keeps both from being written. -/
theorem encode (h : a.WrittenAlike b) (increase : a.NamesIncrease) (m : Mode) (o : ByteOrder) :
    Codec.encode a m o = Codec.encode b m o := by
  have messages : (a.remarks.map fun l => utf8 l.message) = b.remarks.map fun l => utf8 l.message :=
    h.map_eq fun l => utf8 l.2.2
  have parts : Codec.partsOf a = Codec.partsOf b := by
    funext authors
    rw [Codec.partsOf, Codec.partsOf, h.id, h.names, h.times, messages]
  have size : Codec.writtenSize a m = Codec.writtenSize b m := by
    funext authors
    rw [Codec.writtenSize, Codec.writtenSize, parts]
  have bytes : Codec.writtenBytes a m o = Codec.writtenBytes b m o := by
    funext authors
    rw [Codec.writtenBytes, Codec.writtenBytes, Codec.headerFields, Codec.headerFields, parts,
      h.lines_size, h.id]
  rw [Codec.encode_eq, Codec.encode_eq, h.valid, h.id, h.authorNumbers increase, parts, size, bytes]

/-- As many bytes are reckoned for both, although their spans differ. -/
theorem sizeBound (h : a.WrittenAlike b) (ha : a.WellFormed) (hb : b.WellFormed) (m : Mode) :
    Codec.sizeBound a m = Codec.sizeBound b m := by
  have names : Codec.namesTotal a = Codec.namesTotal b := by
    rw [Codec.namesTotal, Codec.namesTotal, h.names]
  have messages : Codec.messagesTotal a = Codec.messagesTotal b :=
    congrArg total (h.map_eq fun l => l.2.2.utf8ByteSize)
  rw [Codec.sizeBound_eq ha, Codec.sizeBound_eq hb, Codec.encodedSize, Codec.encodedSize,
    Codec.absentSize, Codec.absentSize, names, messages, h.names_size, h.lines_size, h.id]

theorem narrowest (h : a.WrittenAlike b) (ha : a.WellFormed) (hb : b.WellFormed) :
    Codec.narrowest a = Codec.narrowest b := by
  have bounds : Codec.sizeBound a = Codec.sizeBound b := funext (h.sizeBound ha hb)
  rw [Codec.narrowest, Codec.narrowest, bounds]

end WrittenAlike

end Log

namespace Codec

variable {log : Log} {m : Mode} {out : List UInt8}

/-- A log that has been read back is written as the one that was written. -/
theorem writtenAlike_of_decode {back : Log} (storable : log.Storable)
    (written : encode log m .native = .ok out) (read : decode out.toByteArray = .ok back) :
    back.WrittenAlike log := by
  by_cases times : ∀ l ∈ log.lines, l.time.Representable
  · obtain ⟨back', read', same⟩ := decode_of_representable storable written times
    rw [read] at read'
    cases read'
    exact same.writtenAlike (encode_eq_ok.mp written).1
  · -- a time that the calendar does not have would not have been read
    have unknown : ∃ l ∈ log.lines, ¬l.time.Representable := by simpa using times
    obtain ⟨l, -, -, refused⟩ := decode_of_not_representable storable written unknown
    rw [read] at refused
    cases refused

/-- There is one way to write what a log says.  The same mode is chosen for logs that say the same,
and in every mode and byte order they are written as the same bytes, or neither of them, for a
number that does not fit.  What has been written and read back is written again as the same bytes,
also with a leap second in it. -/
theorem encode_canonical (h : log.Obtained) (valid : log.valid = true) :
    (∀ other : Log, other.Obtained → log.same other = true →
      narrowest log = narrowest other ∧
      ∀ (m : Mode) (o : ByteOrder),
        (∃ out, encode log m o = .ok out ∧ encode other m o = .ok out) ∨
        ∃ n, m.max < n ∧ encode log m o = .error (.overflow n m) ∧
          encode other m o = .error (.overflow n m)) ∧
    ∀ (m : Mode) (out : List UInt8) (back : Log), encode log m .native = .ok out →
      decode out.toByteArray = .ok back → encode back m .native = .ok out := by
  refine ⟨fun other ho same => ?_, fun m out back written read => ?_⟩
  · have alike := Log.writtenAlike_of_same same
    have increase := h.storable.names_increase
    refine ⟨alike.narrowest h.wellFormed ho.wellFormed, fun m o => ?_⟩
    rw [← alike.encode increase]
    -- whether one of them is written depends on its size alone
    rcases Nat.lt_or_ge m.max (encodedSize log m) with large | fits
    · obtain ⟨n, beyond, refused⟩ := encode_of_lt h valid large o
      exact .inr ⟨n, beyond, refused, refused⟩
    · obtain ⟨out, written, -⟩ := exists_encode_of_fits h valid fits o
      exact .inl ⟨out, written, written⟩
  · have alike := writtenAlike_of_decode h.storable written read
    have increase := (Log.Obtained.decoded read).storable.names_increase
    rw [alike.encode increase, written]

/-- The line in a leap second, as the other service writes it. -/
def otherLeapSecond : Log :=
  Service.overrustle.parse ⟨"a", firstSecond, ""⟩ "[2016-12-31 23:59:60 UTC] bö: é"

set_option maxRecDepth 10000 in
theorem otherLeapSecond_eq :
    otherLeapSecond = ⟨⟨"a", firstSecond, ""⟩, "[2016-12-31 23:59:60 UTC] bö: é", true,
      #[⟨26, 3⟩], #[⟨⟨1483228799, 1000⟩, ⟨26, 3⟩, ⟨31, 2⟩⟩]⟩ := by
  cbv

/-- Two answers that say the same in different words are written alike, and the log that is read
back, which is another one, is written so again. -/
theorem encode_canonical_leapSecond :
    leapSecond.same otherLeapSecond = true ∧ narrowest leapSecond = narrowest otherLeapSecond ∧
      ∃ out back, encode leapSecond .u16 .native = .ok out ∧
        encode otherLeapSecond .u16 .native = .ok out ∧ decode out.toByteArray = .ok back ∧
        back.same leapSecond = false ∧ encode back .u16 .native = .ok out := by
  have obtained := obtained_leapSecond
  have same : leapSecond.same otherLeapSecond = true := by
    rw [leapSecond_eq, otherLeapSecond_eq]
    cbv
  obtain ⟨out, written⟩ := exists_encode_leapSecond .native
  have valid := (encode_eq_ok.mp written).1
  obtain ⟨back, read, readBack⟩ :=
    decode_of_representable obtained.storable written representable_leapSecond
  obtain ⟨alike, again⟩ := encode_canonical obtained valid
  obtain ⟨mode, outcomes⟩ := alike otherLeapSecond (.parsed ..) same
  have other : encode otherLeapSecond .u16 .native = .ok out := by
    rcases outcomes .u16 .native with ⟨out', first, second⟩ | ⟨n, -, refused, -⟩
    · rw [written] at first
      cases first
      exact second
    · rw [written] at refused
      cases refused
  refine ⟨same, mode, out, back, written, other, read, ?_, again .u16 out back written read⟩
  exact Bool.eq_false_iff.mpr fun whole => leap_leapSecond ((readBack.same_iff valid).mp whole)

end Codec

end Scrollback
