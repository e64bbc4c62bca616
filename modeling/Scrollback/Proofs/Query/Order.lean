/-
Lines in the order of their times.  The lines that are found are sorted by time alone, and those of
one time stay in the order in which they came.  Lines that are in order are determined by what is
said at each time (`Line.eq_of_linesAt`), so what is found depends on the order of the logs only at
times at which more than one of them has something (`Query.linesIn_eq_of_perm`).
-/
import Scrollback.Proofs.Query.Answers

namespace Scrollback

namespace Instant

theorem le_trans {a b c : Instant} (hab : a ≤ b) (hbc : b ≤ c) : a ≤ c := by
  show a.second < c.second ∨ a.second = c.second ∧ a.milli ≤ c.milli
  rcases hab with hab | ⟨hab, milli⟩
  · rcases hbc with hbc | ⟨hbc, -⟩
    · exact .inl (hab.trans hbc)
    · exact .inl (hbc ▸ hab)
  · rcases hbc with hbc | ⟨hbc, milli'⟩
    · exact .inl (hab ▸ hbc)
    · exact .inr ⟨hab.trans hbc, milli.trans milli'⟩

theorem le_total (a b : Instant) : a ≤ b ∨ b ≤ a := by
  show (a.second < b.second ∨ a.second = b.second ∧ a.milli ≤ b.milli) ∨
    (b.second < a.second ∨ b.second = a.second ∧ b.milli ≤ a.milli)
  omega

theorem le_refl (a : Instant) : a ≤ a :=
  (le_total a a).elim id id

theorem le_antisymm {a b : Instant} (hab : a ≤ b) (hba : b ≤ a) : a = b := by
  have hab : a.second < b.second ∨ a.second = b.second ∧ a.milli ≤ b.milli := hab
  have hba : b.second < a.second ∨ b.second = a.second ∧ b.milli ≤ a.milli := hba
  rcases a with ⟨second, milli⟩
  rcases b with ⟨second', milli'⟩
  dsimp only at hab hba
  obtain rfl : second = second' := by omega
  obtain rfl : milli = milli' := by omega
  rfl

end Instant

/-! ### Lines of one time -/

namespace Line

/-- The lines are in the order of their times. -/
def Ordered (lines : List Line) : Prop :=
  lines.Pairwise fun a b => a.time ≤ b.time

/-- What is said at a time. -/
def linesAt (t : Instant) (lines : List Line) : List Line :=
  lines.filter fun l => l.time = t

variable {t : Instant} {lines xs ys : List Line}

theorem mem_linesAt {l : Line} : l ∈ linesAt t lines ↔ l ∈ lines ∧ l.time = t := by
  rw [linesAt, List.mem_filter, decide_eq_true_eq]

theorem linesAt_cons_of_eq {l : Line} (h : l.time = t) :
    linesAt t (l :: lines) = l :: linesAt t lines :=
  List.filter_cons_of_pos (decide_eq_true h)

theorem linesAt_cons_of_ne {l : Line} (h : l.time ≠ t) :
    linesAt t (l :: lines) = linesAt t lines :=
  List.filter_cons_of_neg (by simpa using h)

/-- The first of some lines in order is the earliest of them. -/
theorem time_le_of_mem {x y : Line} (h : Ordered (x :: xs)) (hy : y ∈ x :: xs) :
    x.time ≤ y.time := by
  rcases List.mem_cons.mp hy with rfl | later
  · exact Instant.le_refl y.time
  · exact (List.pairwise_cons.mp h).1 y later

/-- What is said at each time determines lines that are in order. -/
theorem eq_of_linesAt (hx : Ordered xs) (hy : Ordered ys)
    (same : ∀ t, linesAt t xs = linesAt t ys) : xs = ys := by
  -- a line of either list is a line of the other
  have mem_of_mem : ∀ {l : Line} {as bs : List Line}, (∀ t, linesAt t as = linesAt t bs) →
      l ∈ as → l ∈ bs := by
    intro l as bs same hl
    have at_time := mem_linesAt.mpr ⟨hl, rfl⟩
    rw [same] at at_time
    exact (mem_linesAt.mp at_time).1
  induction xs generalizing ys with
  | nil =>
    rcases ys with - | ⟨y, ys⟩
    · rfl
    · cases mem_of_mem (fun t => (same t).symm) (List.mem_cons_self (a := y) (l := ys))
  | cons x xs ih =>
    rcases ys with - | ⟨y, ys⟩
    · cases mem_of_mem same (List.mem_cons_self (a := x) (l := xs))
    · -- both lists begin at their earliest time, and so with the same line
      have time : x.time = y.time := by
        apply Instant.le_antisymm
        · exact time_le_of_mem hx (mem_of_mem (fun t => (same t).symm) List.mem_cons_self)
        · exact time_le_of_mem hy (mem_of_mem same List.mem_cons_self)
      have first := same x.time
      rw [linesAt_cons_of_eq rfl, linesAt_cons_of_eq time.symm] at first
      obtain rfl : x = y := (List.cons.inj first).1
      congr 1
      apply ih (List.pairwise_cons.mp hx).2 (List.pairwise_cons.mp hy).2
      intro t
      have here := same t
      by_cases now : x.time = t
      · rw [linesAt_cons_of_eq now, linesAt_cons_of_eq now] at here
        exact (List.cons.inj here).2
      · rwa [linesAt_cons_of_ne now, linesAt_cons_of_ne now] at here

end Line

/-! ### Logs in another order -/

/-- What is put together in another order is the same where any two pieces can be exchanged. -/
theorem flatMap_eq_of_perm {α β : Type} {f : α → List β} {as bs : List α} (h : as.Perm bs)
    (exchange : ∀ a ∈ as, ∀ b ∈ as, f a ++ f b = f b ++ f a) : as.flatMap f = bs.flatMap f := by
  induction h with
  | nil => rfl
  | cons a h ih =>
    rw [List.flatMap_cons, List.flatMap_cons,
      ih fun a ha b hb => exchange a (List.mem_cons_of_mem _ ha) b (List.mem_cons_of_mem _ hb)]
  | swap a b rest =>
    simp only [List.flatMap_cons, ← List.append_assoc]
    rw [exchange b (by simp) a (by simp)]
  | trans h h' ih ih' =>
    apply (ih exchange).trans (ih' _)
    intro a ha b hb
    exact exchange a (h.mem_iff.mpr ha) b (h.mem_iff.mpr hb)

/-- Two pieces can be exchanged if each element of the one equals each of the other. -/
theorem append_comm_of_forall_eq {α : Type} {xs ys : List α}
    (same : ∀ x ∈ xs, ∀ y ∈ ys, x = y) : xs ++ ys = ys ++ xs := by
  rcases xs with - | ⟨x, xs⟩
  · simp
  rcases ys with - | ⟨y, ys⟩
  · simp
  · -- all elements of both are one and the same
    obtain rfl : x = y := same x List.mem_cons_self y List.mem_cons_self
    have left : x :: xs = List.replicate (xs.length + 1) x :=
      List.eq_replicate_iff.mpr ⟨rfl, fun z hz => same z hz x List.mem_cons_self⟩
    have right : x :: ys = List.replicate (ys.length + 1) x :=
      List.eq_replicate_iff.mpr ⟨rfl, fun z hz => (same x List.mem_cons_self z hz).symm⟩
    rw [left, right, List.replicate_append_replicate, List.replicate_append_replicate, Nat.add_comm]

namespace Query

variable {q : Query} {logs logs' : List Log}

theorem linesIn_perm (q : Query) (logs : List Log) :
    (q.linesIn logs).Perm (logs.flatMap q.linePart) :=
  List.mergeSort_perm _ _

theorem time_trans (a b c : Line) (hab : decide (a.time ≤ b.time) = true)
    (hbc : decide (b.time ≤ c.time) = true) : decide (a.time ≤ c.time) = true := by
  rw [decide_eq_true_eq] at *
  exact Instant.le_trans hab hbc

theorem time_total (a b : Line) :
    (decide (a.time ≤ b.time) || decide (b.time ≤ a.time)) = true := by
  simpa using Instant.le_total a.time b.time

theorem ordered_linesIn (q : Query) (logs : List Log) : Line.Ordered (q.linesIn logs) :=
  (List.pairwise_mergeSort time_trans time_total _).imp fun h => of_decide_eq_true h

/-- What is said at one time stays in the order of the logs. -/
theorem linesAt_linesIn (q : Query) (logs : List Log) (t : Instant) :
    Line.linesAt t (q.linesIn logs) = logs.flatMap fun log => Line.linesAt t (q.linePart log) := by
  have perm := q.linesIn_perm logs
  have pieces : Line.linesAt t (logs.flatMap q.linePart) =
      logs.flatMap fun log => Line.linesAt t (q.linePart log) := List.filter_flatMap
  rw [← pieces]
  -- lines of one time are in order as they stand, and sorting leaves them so
  have tied : (Line.linesAt t (logs.flatMap q.linePart)).Pairwise
      fun a b => decide (a.time ≤ b.time) = true := by
    apply List.pairwise_iff_forall_sublist.mpr
    intro a b sub
    have first := (Line.mem_linesAt.mp (sub.subset List.mem_cons_self)).2
    have second := (Line.mem_linesAt.mp (sub.subset (List.mem_cons_of_mem a List.mem_cons_self))).2
    rw [decide_eq_true_eq, first, second]
    exact Instant.le_refl t
  have sub : (Line.linesAt t (logs.flatMap q.linePart)).Sublist (q.linesIn logs) :=
    List.sublist_mergeSort time_trans time_total tied List.filter_sublist
  have kept := sub.filter fun l => l.time = t
  rw [Line.linesAt, List.filter_filter] at kept
  simp only [Bool.and_self] at kept
  exact (kept.eq_of_length (perm.filter _).length_eq.symm).symm

/-- Logs that have nothing at the same time, or the same, are found alike in any order. -/
theorem linesIn_eq_of_perm (h : logs.Perm logs')
    (apart : ∀ log ∈ logs, ∀ log' ∈ logs, log = log' ∨ ∀ l ∈ q.linePart log,
      ∀ l' ∈ q.linePart log', l.time = l'.time → l = l') : q.linesIn logs = q.linesIn logs' := by
  apply Line.eq_of_linesAt (q.ordered_linesIn logs) (q.ordered_linesIn logs')
  intro t
  rw [linesAt_linesIn, linesAt_linesIn]
  apply flatMap_eq_of_perm h
  intro log hlog log' hlog'
  rcases apart log hlog log' hlog' with rfl | equal
  · rfl
  · apply append_comm_of_forall_eq
    intro l hl l' hl'
    obtain ⟨hl, time⟩ := Line.mem_linesAt.mp hl
    obtain ⟨hl', time'⟩ := Line.mem_linesAt.mp hl'
    exact equal l hl l' hl' (time.trans time'.symm)

end Query

end Scrollback
