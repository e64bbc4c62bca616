/-
Instants and their milliseconds.  A number of milliseconds is the number of its instant, and an
instant is the instant of its number unless it is a leap second (`Instant.ofMillis_epochMillis`).
Every instant of the clock has a number of 64 bits (`Instant.OnClock.fitsWord`), and a period is the
period between its bounds (`Period.make?_bounds`).
-/
import Scrollback.Proofs.Time.Calendar
import Scrollback.Time.Stamp

namespace Scrollback

namespace Instant

/-- The calendar has an instant of this number of milliseconds. -/
def Representable (t : Instant) : Prop :=
  minMillis ≤ t.epochMillis ∧ t.epochMillis ≤ maxMillis

instance (t : Instant) : Decidable t.Representable :=
  inferInstanceAs (Decidable (_ ∧ _))

/-- The instant lies in a leap second. -/
def IsLeap (t : Instant) : Prop :=
  1000 ≤ t.milli

/-- The milliseconds of the instant are a number of 64 bits. -/
def FitsWord (t : Instant) : Prop :=
  -9223372036854775808 ≤ t.epochMillis ∧ t.epochMillis < 9223372036854775808

/-- The instant that is read back when an instant has been stored. -/
def restamped (t : Instant) : Instant :=
  ofMillis t.epochMillis

@[simp] theorem epochMillis_ofMillis (millis : Int) : (ofMillis millis).epochMillis = millis := by
  simp only [ofMillis, epochMillis]
  omega

theorem milli_ofMillis_lt (millis : Int) : (ofMillis millis).milli < 1000 := by
  simp only [ofMillis]
  omega

/-- Only leap seconds are changed by being stored. -/
theorem ofMillis_epochMillis {t : Instant} : t.restamped = t ↔ ¬t.IsLeap := by
  constructor
  · intro h leap
    have := milli_ofMillis_lt t.epochMillis
    rw [restamped] at h
    rw [h] at this
    exact absurd leap (Nat.not_le.mpr this)
  · intro h
    obtain ⟨second, milli⟩ := t
    simp only [IsLeap, Nat.not_le] at h
    simp only [restamped, ofMillis, epochMillis, Instant.mk.injEq]
    omega

theorem ofMillis?_eq_ok {millis : Int} {t : Instant} :
    ofMillis? millis = .ok t ↔ (minMillis ≤ millis ∧ millis ≤ maxMillis) ∧ ofMillis millis = t := by
  unfold ofMillis?
  split
  · next h => simp [h]
  · next h => simp [h]

theorem ofMillis?_eq_error {t : Instant} (h : ¬t.Representable) :
    ofMillis? t.epochMillis = .error (.outOfRange t.epochMillis) :=
  if_neg h

theorem Representable.fitsWord {t : Instant} (h : t.Representable) : t.FitsWord := by
  obtain ⟨low, high⟩ := h
  simp only [minMillis, maxMillis] at low high
  exact ⟨by omega, by omega⟩

theorem representable_of_ofMillis? {millis : Int} {t : Instant} (h : ofMillis? millis = .ok t) :
    t.Representable := by
  obtain ⟨range, rfl⟩ := ofMillis?_eq_ok.mp h
  rwa [Representable, epochMillis_ofMillis]

theorem ofMillis?_eq_restamped {t : Instant} (h : t.Representable) :
    ofMillis? t.epochMillis = .ok t.restamped :=
  if_pos h

/-! ### Instants of the clock -/

/-- An instant at a date of the calendar and a time of the day, which may be a leap second. -/
def OnClock (t : Instant) : Prop :=
  ∃ date hour minute second, date.Exists ∧ hour < 24 ∧ minute < 60 ∧ second ≤ 60 ∧
    ofClock date hour minute second = t

variable {t : Instant}

/-- A time of the day belongs to its date, and so does the leap second that ends it. -/
theorem dayNumber_ofClock (d : Date) {hour minute second : Nat} (hh : hour < 24) (hm : minute < 60)
    (hs : second ≤ 60) : (ofClock d hour minute second).dayNumber = d.dayNumber := by
  simp only [ofClock, dayNumber]
  split <;> dsimp only <;> omega

/-- An instant of the clock lies on a day of the calendar. -/
theorem OnClock.dayNumber_range (h : t.OnClock) :
    Date.firstDayNumber ≤ t.dayNumber ∧ t.dayNumber ≤ Date.lastDayNumber := by
  obtain ⟨d, hour, minute, second, hd, hh, hm, hs, rfl⟩ := h
  obtain ⟨-, range⟩ := Date.exists_iff.mp hd
  rwa [dayNumber_ofClock d hh hm hs]

theorem OnClock.milli_le (h : t.OnClock) : t.milli ≤ 1000 := by
  obtain ⟨d, hour, minute, second, -, -, -, -, rfl⟩ := h
  simp only [ofClock]
  split <;> simp

/-- The milliseconds of an instant of the clock are a number of 64 bits. -/
theorem OnClock.fitsWord (h : t.OnClock) : t.FitsWord := by
  obtain ⟨low, high⟩ := h.dayNumber_range
  have milli := h.milli_le
  simp only [dayNumber, Date.firstDayNumber, Date.lastDayNumber] at low high
  simp only [FitsWord, epochMillis]
  omega

/-- Only the leap second that ends the calendar has milliseconds that no instant has. -/
theorem OnClock.representable (h : t.OnClock) (whole : ¬t.IsLeap) : t.Representable := by
  obtain ⟨low, high⟩ := h.dayNumber_range
  simp only [dayNumber, Date.firstDayNumber, Date.lastDayNumber] at low high
  simp only [IsLeap] at whole
  simp only [Representable, epochMillis, minMillis, maxMillis]
  omega

/-- The calendar begins before any instant of the clock. -/
theorem OnClock.min_le (h : t.OnClock) : ofMillis minMillis ≤ t := by
  obtain ⟨low, -⟩ := h.dayNumber_range
  simp only [dayNumber, Date.firstDayNumber] at low
  show Instant.le _ _
  simp only [Instant.le, ofMillis, minMillis]
  omega

/-- An instant that is stored does not come back as an earlier one. -/
theorem lt_of_restamped_lt {t' : Instant} (h : t.restamped < t') : t < t' := by
  replace h : Instant.lt _ _ := h
  show Instant.lt _ _
  simp only [Instant.lt, restamped, ofMillis, epochMillis] at h ⊢
  omega

/-- A leap second comes back as a later instant. -/
theorem IsLeap.lt_restamped (h : t.IsLeap) : t < t.restamped := by
  show Instant.lt _ _
  simp only [IsLeap] at h
  simp only [Instant.lt, restamped, ofMillis, epochMillis]
  omega

theorem lt_irrefl (t : Instant) : ¬t < t := by
  rintro (h | ⟨-, h⟩)
  · exact Int.lt_irrefl _ h
  · exact Nat.lt_irrefl _ h

end Instant

/-- A time that is read off a line is an instant of the clock. -/
theorem Stamp.onClock_of_read {cs rest : List Char} {t : Instant}
    (h : Stamp.read cs = some (t, rest)) : t.OnClock := by
  simp only [Stamp.read, Option.bind_eq_bind, Option.bind_eq_some_iff] at h
  obtain ⟨year, -, -, -, month, -, -, -, day, -, hour, -, -, -, minute, -, -, -, second, -, t', h, h'⟩ := h
  obtain ⟨rfl, -⟩ : t' = t ∧ second.2 = rest := by simpa using h'
  unfold Stamp.instant? at h
  split at h
  · next clock =>
    obtain ⟨d, hd, rfl⟩ := Option.map_eq_some_iff.mp h
    unfold Date.make? at hd
    split at hd
    · next exist =>
      obtain rfl := Option.some.inj hd
      exact ⟨_, _, _, _, exist, clock.1, clock.2.1, clock.2.2, rfl⟩
    · cases hd
  · cases h

/-- A period is the period between its bounds. -/
@[simp] theorem Period.make?_bounds (p : Period) : Period.make? p.start p.stop = .ok p := by
  obtain ⟨start, stop, ordered, low, high⟩ := p
  have startFits : Instant.minMillis ≤ start ∧ start ≤ Instant.maxMillis := ⟨low, by omega⟩
  have stopFits : Instant.minMillis ≤ stop ∧ stop ≤ Instant.maxMillis := ⟨by omega, high⟩
  simp only [Period.make?, dif_neg (not_not.mpr startFits), dif_neg (not_not.mpr stopFits),
    dif_pos ordered]

end Scrollback
