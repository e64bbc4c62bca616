/-
The targets of a search cover its period without overlap.  For listed users there is one target to
every month that the period meets, so that each of its instants lies in exactly one of the logs that
are asked for of a channel and a user (`Service.tiledByMonth`).  For everybody the targets are days.
There the last day of the calendar is left out: it is counted, but no log of it is asked for
(`Service.tiledByDay`, `Service.last_day_not_asked`).
-/
import Scrollback.Proofs.Time.Enumeration
import Scrollback.Targets

namespace Scrollback

/-! ### Counting -/

theorem countP_eq_one {α : Type} {l : List α} {a : α} {test : α → Bool} (nodup : l.Nodup)
    (mem : a ∈ l) (only : ∀ b ∈ l, test b = true ↔ b = a) : l.countP test = 1 := by
  classical
  rw [← List.count_eq_one_of_mem nodup mem, List.count]
  exact List.countP_congr fun b hb => by rw [only b hb, beq_iff_eq]

theorem countP_eq_zero {α : Type} {l : List α} {test : α → Bool}
    (none : ∀ b ∈ l, test b = false) : l.countP test = 0 :=
  List.countP_eq_zero.mpr fun b hb => by simp [none b hb]

theorem saturatingMul_eq {a b : Nat} (h : a * b ≤ wordMax) : saturatingMul a b = a * b :=
  Nat.min_eq_left h

theorem length_flatMap_const {α β : Type} (l : List α) {f : α → List β} {n : Nat}
    (h : ∀ a, (f a).length = n) : (l.flatMap f).length = l.length * n := by
  induction l with
  | nil => simp
  | cons a l ih =>
    rw [List.flatMap_cons, List.length_append, h, ih, List.length_cons, Nat.succ_mul, Nat.add_comm]

/-- A period ends at the end of time at the latest. -/
theorem Period.lt_end_of_contains {p : Period} {t : Instant} (h : p.contains t = true) :
    t < Instant.ofMillis Instant.maxMillis := by
  have last := p.stop_le_max
  have before : Instant.lt _ _ := (Period.contains_iff.mp h).2
  show Instant.lt _ _
  simp only [Instant.lt, Instant.ofMillis, Instant.maxMillis] at *
  omega

namespace Service

/-! ### Months -/

/-- The months of a period, and the targets of listed users in them. -/
structure TiledByMonth (s : Service) (channels names : List String) (p : Period) : Prop where
  /-- Just the months that have an instant of the period are listed. -/
  mem_months : ∀ m, m ∈ p.months ↔ p.MeetsMonth m
  /-- They are listed in the order of the calendar. -/
  increasing : p.months.Pairwise fun a b => a.order b = .lt
  nodup : p.months.Nodup
  monthCount_eq : p.monthCount = p.months.length
  /-- There is a target to a channel, a user and a month, in this order. -/
  targets_eq : s.targets channels (.listed names) p =
    channels.flatMap fun channel => names.flatMap fun name =>
      p.months.map (s.monthlyTarget channel name)
  targetCount_eq : channels.length * (names.length * p.months.length) ≤ wordMax →
    targetCount channels (.listed names) p = (s.targets channels (.listed names) p).length
  /-- Of a channel and a user, every instant of the period is in the log of one target. -/
  covered : ∀ channel name t, p.contains t = true →
    (p.months.map (s.monthlyTarget channel name)).countP (fun g => g.id.period.contains t) = 1

theorem length_targets_listed (s : Service) (channels names : List String) (p : Period) :
    (s.targets channels (.listed names) p).length =
      channels.length * (names.length * p.months.length) :=
  length_flatMap_const channels fun _ => length_flatMap_const names fun _ => List.length_map ..

theorem targetCount_listed {channels names : List String} {p : Period}
    (fits : channels.length * (names.length * p.months.length) ≤ wordMax) :
    targetCount channels (.listed names) p =
      channels.length * (names.length * p.months.length) := by
  rw [targetCount]
  rw [p.monthCount_eq]
  rcases Nat.eq_zero_or_pos channels.length with none | some
  · rw [none, saturatingMul, Nat.zero_mul, Nat.zero_mul, Nat.zero_min]
  · have inner : names.length * p.months.length ≤ wordMax :=
      (Nat.le_mul_of_pos_left _ some).trans fits
    rw [saturatingMul_eq inner, saturatingMul_eq fits]

/-- The months of a period are its calendar months, one after the other, and the logs of a user in
them cover it without overlap. -/
theorem tiledByMonth (s : Service) (channels names : List String) (p : Period) :
    s.TiledByMonth channels names p where
  mem_months := fun _ => Period.mem_months
  increasing := p.pairwise_months
  nodup := p.nodup_months
  monthCount_eq := p.monthCount_eq
  targets_eq := rfl
  targetCount_eq := fun fits => by rw [targetCount_listed fits, length_targets_listed]
  covered := by
    intro channel name t inside
    rw [List.countP_map]
    refine countP_eq_one p.nodup_months (Period.mem_months.mpr ⟨t, inside, rfl⟩) fun m hm => ?_
    refine (Period.contains_month (Period.exists_of_mem_months hm) ?_).trans eq_comm
    exact Period.lt_end_of_contains inside

/-! ### Days -/

/-- The days of a period, and the targets of everybody on them. -/
structure TiledByDay (s : Service) (channels : List String) (p : Period) : Prop where
  /-- Just the days that have an instant of the period are listed, but not the calendar's last. -/
  mem_days : ∀ d, d ∈ p.days ↔ p.MeetsDay d ∧ d ≠ .last
  /-- They are listed in the order of the calendar. -/
  increasing : p.days.Pairwise fun a b => a.dayNumber < b.dayNumber
  nodup : p.days.Nodup
  dayCount_eq : p.dayCount = p.days.length + if p.MeetsDay .last then 1 else 0
  /-- There is a target to a channel and a day, in this order. -/
  targets_eq : s.targets channels .everyone p =
    channels.flatMap fun channel => p.days.map (s.dailyTarget channel)
  targetCount_eq : channels.length * p.dayCount ≤ wordMax →
    targetCount channels .everyone p = (s.targets channels .everyone p).length +
      if p.MeetsDay .last then channels.length else 0
  /-- Of a channel, every instant of the period is in the log of one target, unless it lies on the
  calendar's last day; then it is in none. -/
  covered : ∀ channel t, p.contains t = true →
    (p.days.map (s.dailyTarget channel)).countP (fun g => g.id.period.contains t) =
      if t.date = .last then 0 else 1

theorem length_targets_everyone (s : Service) (channels : List String) (p : Period) :
    (s.targets channels .everyone p).length = channels.length * p.days.length :=
  length_flatMap_const channels fun _ => List.length_map ..

/-- The days of a period are its calendar days, one after the other, but for the last one of the
calendar, and the logs of these days cover it without overlap up to there. -/
theorem tiledByDay (s : Service) (channels : List String) (p : Period) :
    s.TiledByDay channels p where
  mem_days := fun _ => Period.mem_days
  increasing := p.pairwise_days
  nodup := p.nodup_days
  dayCount_eq := p.dayCount_eq
  targets_eq := rfl
  targetCount_eq := by
    intro fits
    rw [length_targets_everyone, targetCount, saturatingMul_eq fits, p.dayCount_eq, mul_add,
      mul_ite, mul_one, mul_zero]
  covered := by
    intro channel t inside
    have day : ∀ d ∈ p.days, (Period.day d).contains t = true ↔ t.date = d := fun d hd =>
      Period.contains_day (Period.exists_of_mem_days hd) (Period.lt_end_of_contains inside)
    rw [List.countP_map]
    split
    · next last =>
      refine countP_eq_zero fun d hd => Bool.eq_false_iff.mpr fun there => ?_
      exact (Period.mem_days.mp hd).2 (((day d hd).mp there).symm.trans last)
    · next early =>
      exact countP_eq_one p.nodup_days (Period.mem_days.mpr ⟨⟨t, inside, rfl⟩, early⟩) fun d hd =>
        (day d hd).trans eq_comm

/-- The last day of the calendar has instants and is counted, but it is not listed and no log of it
is asked for. -/
theorem last_day_not_asked :
    (Period.day .last).MeetsDay .last ∧ (Period.day .last).days = [] ∧
      (Period.day .last).dayCount = 1 ∧
      Service.gempir.targets ["a"] .everyone (Period.day .last) = [] ∧
      targetCount ["a"] .everyone (Period.day .last) = 1 := by
  decide +kernel

end Service

end Scrollback
