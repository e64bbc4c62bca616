/-
Logs as the library comes by them: read off what a service served, or decoded from bytes.  All of
them can be stored (`Log.Obtained.storable`): the names are in order and complete, and every time
is a number of milliseconds of 64 bits.  What a chat line is taken apart into is said here once, for
either form (`Grammar.gempirLine_cases`, `Grammar.overrustleLine_cases`).
-/
import Scrollback.Proofs.Codec.Decoded
import Scrollback.Proofs.Time.Millis

namespace Scrollback

namespace Grammar

variable {line : List Char} {p : Parts}

/-! ### Chat lines -/

/-- What a line is taken apart into where the channel is named: the space behind the colon, if there is
one, is no part of the message. -/
theorem gempirLine_cases (h : gempirLine line = some p) :
    ∃ before rest channel named message, head List.isEmpty line = some (p.time, before, rest) ∧
      cut ' ' rest = some (channel, named) ∧ cut ':' named = some (p.author, message) ∧
      p.before = before + utf8Size channel + 1 ∧
      (p.between = 2 ∧ message = ' ' :: p.message ∨ p.between = 1 ∧ message = p.message) := by
  simp only [gempirLine, Option.bind_eq_bind, Option.bind_eq_some_iff] at h
  obtain ⟨⟨t, before, rest⟩, time, ⟨channel, named⟩, space, ⟨author, message⟩, colon, h⟩ := h
  dsimp only at h
  split at h
  · cases h
    exact ⟨before, rest, channel, named, _, time, space, colon, rfl, .inl ⟨rfl, rfl⟩⟩
  · cases h
    exact ⟨before, rest, channel, named, _, time, space, colon, rfl, .inr ⟨rfl, rfl⟩⟩

/-- What a line is taken apart into where it is not: the colon that ends the author's word is no part of
the author. -/
theorem overrustleLine_cases (h : overrustleLine line = some p) :
    ∃ tail rest, head tail line = some (p.time, p.before, rest) ∧
      cut ' ' rest = some (p.author ++ [':'], p.message) ∧ p.between = 2 := by
  simp only [overrustleLine, Option.bind_eq_bind, Option.bind_eq_some_iff] at h
  obtain ⟨⟨t, before, rest⟩, time, ⟨word, message⟩, space, h⟩ := h
  split at h
  · next colon =>
    cases h
    refine ⟨_, rest, time, ?_, rfl⟩
    rw [List.dropLast_append_getLast? ':' colon]
    exact space
  · cases h

/-- A line of either form begins with its time. -/
theorem head_of_lineOf {s : Service} (h : lineOf s line = some p) :
    ∃ tail before rest, head tail line = some (p.time, before, rest) := by
  cases s with
  | gempir =>
    obtain ⟨before, rest, _, _, _, time, -⟩ := gempirLine_cases h
    exact ⟨_, before, rest, time⟩
  | overrustle =>
    obtain ⟨tail, rest, time, -⟩ := overrustleLine_cases h
    exact ⟨tail, p.before, rest, time⟩

/-! ### Times of chat lines -/

theorem onClock_of_head {tail : List Char → Bool} {t : Instant} {before : Nat}
    {rest : List Char} (h : head tail line = some (t, before, rest)) : t.OnClock := by
  rcases line with - | ⟨c, line⟩
  · cases h
  · unfold head at h
    split at h
    · next inner heq =>
      simp only [Option.bind_eq_bind, Option.bind_eq_some_iff] at h
      obtain ⟨_, -, ⟨t', more⟩, hread, hif⟩ := h
      split at hif
      · cases hif
        exact Stamp.onClock_of_read hread
      · cases hif
    · cases h

theorem onClock_of_lineOf {s : Service} (h : lineOf s line = some p) : p.time.OnClock := by
  obtain ⟨_, _, _, time⟩ := head_of_lineOf h
  exact onClock_of_head time

/-- Every line of a body stands at an instant of the clock. -/
theorem onClock_of_spansFrom {s : Service} {start : Nat} {lines : List (List Char)}
    {l : LineSpan} (hl : l ∈ spansFrom s start lines) : l.time.OnClock := by
  induction lines generalizing start with
  | nil => simp [spansFrom] at hl
  | cons line rest ih =>
    rw [spansFrom] at hl
    split at hl
    · next p hp =>
      rcases List.mem_cons.mp hl with rfl | hl
      · exact onClock_of_lineOf hp
      · exact ih hl
    · exact ih hl

end Grammar

/-- Every line of a log that a service served stands at an instant of the clock. -/
theorem Service.onClock_of_parse {s : Service} {id : LogId} {body : String} {l : LineSpan}
    (hl : l ∈ (s.parse id body).lines) : l.time.OnClock := by
  rw [Service.parse] at hl
  split at hl
  · simp [Log.missing] at hl
  · exact Grammar.onClock_of_spansFrom (List.mem_toArray.mp hl)

/-! ### Where logs come from -/

namespace Log

/-- A log that has been read off the answer of a service, or decoded. -/
inductive Obtained : Log → Prop
  | parsed (s : Service) (id : LogId) (body : String) : Obtained (s.parse id body)
  | decoded {bytes : ByteArray} {log : Log} (h : Codec.decode bytes = .ok log) : Obtained log

/-- What writing a log relies on. -/
structure Storable (log : Log) : Prop where
  names_increase : log.NamesIncrease
  authors_named : log.AuthorsNamed
  times_fit : ∀ l ∈ log.lines, l.time.FitsWord

theorem storable_missing (id : LogId) (data : String) : (missing id data).Storable := by
  refine ⟨?_, ?_, ?_⟩
  · simp [NamesIncrease, nameTexts, missing]
  · simp [AuthorsNamed, remarks, missing]
  · simp [missing]

theorem storable_ofLines (id : LogId) (data : String) {lines : List LineSpan}
    (clock : ∀ l ∈ lines, l.time.OnClock) : (ofLines id data lines).Storable where
  names_increase := ofLines_increase id data lines
  authors_named := by
    intro line hline
    obtain ⟨l, hl, rfl⟩ := List.mem_map.mp hline
    exact author_mem_ofLines id data hl
  times_fit := fun l hl => (clock l (List.mem_toArray.mp hl)).fitsWord

theorem Obtained.storable {log : Log} (h : log.Obtained) : log.Storable := by
  cases h with
  | parsed s id body =>
    rw [Service.parse]
    split
    · exact storable_missing id body
    · exact storable_ofLines id body fun l hl => Grammar.onClock_of_spansFrom hl
  | decoded h =>
    obtain ⟨r, lines, read, rfl⟩ := Codec.decode_eq_ok.mp h
    have formed := r.logWith_wellFormed read
    refine ⟨formed.names_increase, formed.authors_named, ?_⟩
    intro l hl
    obtain ⟨i, hi, rfl⟩ := List.getElem_of_mem (List.mem_toArray.mp hl)
    obtain ⟨millis, -, htime⟩ := ((r.lines_from read).2 i hi).time
    exact (Instant.representable_of_ofMillis? htime).fitsWord

/-- A log that is small enough is written. -/
theorem Obtained.exists_encode {log : Log} {m : Mode} (h : log.Obtained) (o : ByteOrder)
    (valid : log.valid = true) (small : Codec.sizeBound log m ≤ m.max) :
    ∃ out, Codec.encode log m o = .ok out := by
  have storable := h.storable
  obtain ⟨authors, hauthors⟩ :=
    Codec.exists_authorNumbers storable.names_increase storable.authors_named
  exact Codec.exists_encode_of_sizeBound valid storable.names_increase hauthors small

end Log

end Scrollback
