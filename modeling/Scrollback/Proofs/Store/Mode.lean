/-
Which mode a log is written in where a store has not been set one.  It is the first that holds the
size reckoned for the log, and this counts the user, the names and the messages as present.  So a
narrower mode refuses a log that has them all; of another log it refuses what is too large, but
holds what is so near to its greatest number that the sizes of the absent parts make the difference
(`encode_narrower`).  Such logs there are (`not_forall_narrower_refuses`).
-/
import Scrollback.Proofs.Codec.Size
import Scrollback.Proofs.Store.Refusal

namespace Scrollback

variable {log : Log} {m : Mode}

namespace Codec

theorem narrowest_eq (log : Log) :
    narrowest log =
      if sizeBound log .u16 ≤ Mode.u16.max then .u16
      else if sizeBound log .u32 ≤ Mode.u32.max then .u32
      else .u64 := by
  rw [narrowest, Mode.all]
  by_cases short : sizeBound log .u16 ≤ Mode.u16.max
  · simp [short]
  · by_cases middling : sizeBound log .u32 ≤ Mode.u32.max
    · simp [short, middling]
    · by_cases long : sizeBound log .u64 ≤ Mode.u64.max
      · simp [short, middling, long]
      · simp [short, middling, long]

/-- A mode that has been passed over is too narrow for the reckoned size. -/
theorem lt_sizeBound_of_narrower (narrower : m.width < (narrowest log).width) :
    m.max < sizeBound log m := by
  rw [narrowest_eq] at narrower
  split at narrower
  · cases m <;> exact absurd narrower (by decide)
  · next short =>
    split at narrower
    · cases m with
      | u16 => exact Nat.not_le.mp short
      | u32 | u64 => exact absurd narrower (by decide)
    · next middling =>
      cases m with
      | u16 => exact Nat.not_le.mp short
      | u32 => exact Nat.not_le.mp middling
      | u64 => exact absurd narrower (by decide)

/-- Where there are lines there are names. -/
theorem names_size_ne_zero (formed : log.WellFormed) (some : log.lines.size ≠ 0) :
    log.names.size ≠ 0 := by
  intro none
  rw [← length_remarks, Ne, List.length_eq_zero_iff] at some
  obtain ⟨line, hline⟩ := List.exists_mem_of_ne_nil _ some
  have named := formed.authors_named line hline
  rw [List.eq_nil_of_length_eq_zero ((length_nameTexts log).trans none)] at named
  cases named

/-- A mode that is narrower than the one chosen for a log refuses it if its size is too great.  If
not, the log is so near to the greatest number of the mode that the sizes of its absent parts make
the difference, and the mode holds it.  So a log of a user that has lines is refused. -/
theorem encode_narrower (h : log.Obtained) (valid : log.valid = true)
    (narrower : m.width < (narrowest log).width) (o : ByteOrder) :
    (m.max < encodedSize log m → ∃ n, encode log m o = .error (.overflow n m)) ∧
    (encodedSize log m ≤ m.max → m.max < encodedSize log m + absentSize log m ∧
      ∃ out, encode log m o = .ok out ∧ out.length = encodedSize log m) ∧
    (log.id.user ≠ "" → log.lines.size ≠ 0 → ∃ n, encode log m o = .error (.overflow n m)) := by
  have reckoned := lt_sizeBound_of_narrower narrower
  rw [sizeBound_eq h.wellFormed] at reckoned
  have refused : m.max < encodedSize log m → ∃ n, encode log m o = .error (.overflow n m) := by
    intro large
    obtain ⟨n, -, refused⟩ := encode_of_lt h valid large o
    exact ⟨n, refused⟩
  refine ⟨refused, fun fits => ⟨reckoned, exists_encode_of_fits h valid fits o⟩, ?_⟩
  intro user lines
  -- nothing is absent, so that the reckoned size is the size
  have absent : absentSize log m = 0 := by
    rw [absentSize, if_neg user, if_neg lines, if_neg (names_size_ne_zero h.wellFormed lines)]
  rw [absent] at reckoned
  exact refused reckoned

end Codec

/-! ### A log near to the greatest number -/

namespace Store

/-- The log of such a line has one name. -/
theorem names_longLog (n : Nat) : (longLog n).names = #[⟨25, 1⟩] := by
  rw [longLog_eq, Log.ofLines, Log.distinctAuthors]
  simp [Log.dropRepeats, Log.dropRepeatsOf]

theorem id_longLog (n : Nat) : (longLog n).id = greeting.id := by
  rw [longLog_eq]
  rfl

theorem lines_longLog (n : Nat) : (longLog n).lines.size = 1 := by
  rw [longLog_eq]
  rfl

/-- One name, one line and no user. -/
theorem encodedSize_longLog (n : Nat) (m : Mode) :
    Codec.encodedSize (longLog n) m =
      Codec.headerSize m + (m.width + 1) + (m.width + 1 + (m.width + 2 * m.width)) +
        (m.width + n + (8 + 3 * m.width)) := by
  have obtained : (longLog n).Obtained := .parsed ..
  have messages : Codec.messagesTotal (longLog n) = n := by
    rw [← Codec.length_messages_flatten, messages_longLog]
  have names : Codec.namesTotal (longLog n) = 1 := by
    have fits := obtained.wellFormed.names_fit ⟨25, 1⟩ (by simp [names_longLog])
    have size : ((longLog n).textOf ⟨25, 1⟩).utf8ByteSize = 1 := Span.utf8ByteSize_textIn fits
    simp [Codec.namesTotal, Log.nameTexts, names_longLog, size]
  have channel : greeting.id.channel.utf8ByteSize = 1 := by
    rw [greeting_eq]
    rfl
  rw [Codec.encodedSize, id_longLog, lines_longLog, messages, names, names_longLog, channel]
  simp [greeting_eq]

theorem absentSize_longLog (n : Nat) (m : Mode) : Codec.absentSize (longLog n) m = m.width := by
  rw [Codec.absentSize, id_longLog, lines_longLog, names_longLog]
  simp [greeting_eq]

/-- 65535 bytes are as many as the narrowest mode can hold, but two more are reckoned for a user. -/
theorem narrowest_longLog :
    Codec.encodedSize (longLog 65465) .u16 = Mode.u16.max ∧
      Codec.narrowest (longLog 65465) = .u32 := by
  have obtained : (longLog 65465).Obtained := .parsed ..
  have size := Codec.sizeBound_eq obtained.wellFormed
  refine ⟨by rw [encodedSize_longLog]; decide, ?_⟩
  rw [Codec.narrowest_eq, size, size, encodedSize_longLog, encodedSize_longLog, absentSize_longLog,
    absentSize_longLog]
  decide

end Store

namespace Codec

/-- The narrowest mode has been passed over for a log that it holds. -/
theorem encode_narrower_longLog :
    Mode.u16.width < (narrowest (Store.longLog 65465)).width ∧
      ∀ o, ∃ out, encode (Store.longLog 65465) .u16 o = .ok out ∧ out.length = Mode.u16.max := by
  obtain ⟨size, chosen⟩ := Store.narrowest_longLog
  have narrower : Mode.u16.width < (narrowest (Store.longLog 65465)).width := by
    rw [chosen]
    decide
  refine ⟨narrower, fun o => ?_⟩
  obtain ⟨-, held, -⟩ := encode_narrower (.parsed ..) (Store.valid_longLog 65465) narrower o
  obtain ⟨-, out, written, length⟩ := held size.le
  exact ⟨out, written, length.trans size⟩

/-- So it is not so that every narrower mode refuses a log. -/
theorem not_forall_narrower_refuses :
    ¬∀ log : Log, log.Obtained → log.valid = true → ∀ m : Mode,
      m.width < (narrowest log).width → ∀ o, ∃ n, encode log m o = .error (.overflow n m) := by
  intro all
  obtain ⟨size, chosen⟩ := Store.narrowest_longLog
  have obtained : (Store.longLog 65465).Obtained := .parsed ..
  have valid := Store.valid_longLog 65465
  obtain ⟨n, refused⟩ := all _ obtained valid .u16 (by rw [chosen]; decide) .native
  obtain ⟨out, written, -⟩ := exists_encode_of_fits obtained valid size.le .native
  rw [refused] at written
  cases written

end Codec

end Scrollback
