/-
A batch that several callers share.  What a call does to the batch is one step; the call that closes
the batch takes out what is to be called with the outcome, and calls it in a later step of its own, with
other calls in between.  Calls may also come from what is called.

However the callers take turns, the batch keeps to the course of the calls that it has accepted
(`Batch.Shared.Sound`), so that there is one outcome, and it is called with that one once
(`Batch.Shared.fires_once`).
-/
import Scrollback.Proofs.Batch.Course

namespace Scrollback.Batch

/-- A batch with the callers that share it. -/
structure Shared (ι κ σ π ω : Type) where
  batch : Batch κ σ
  /-- The calls that have reached the batch, each with what it returns, in their order. -/
  calls : List (ι × Call π × Bool)
  /-- The callers that are to call on with an outcome and have not done so yet. -/
  due : List (ι × κ × Outcome ω)
  /-- What has been called with which outcome, in order. -/
  ran : List (κ × Outcome ω)

namespace Shared

variable {ι κ σ π ω : Type} {g : Collector σ π ω} {n : Nat} {k : κ} {s s' : Shared ι κ σ π ω}

/-- A new batch; an outcome that it has at once is called with before any caller gets hold of it. -/
def start (ι : Type) (g : Collector σ π ω) (n : Nat) (k : κ) : Shared ι κ σ π ω :=
  ⟨(Batch.new g n k).2, [], [], (Batch.new g n k).1.toList⟩

/-- A call reaches the batch. -/
def reach (g : Collector σ π ω) (s : Shared ι κ σ π ω) (i : ι) (c : Call π) : Shared ι κ σ π ω :=
  let (answer, fire, b) := s.batch.call g c
  { s with
    batch := b
    calls := s.calls ++ [(i, c, answer)]
    due := s.due ++ fire.toList.map fun f => (i, f) }

/-- One step of one caller. -/
inductive Step (g : Collector σ π ω) : Shared ι κ σ π ω → Shared ι κ σ π ω → Prop
  /-- A caller that has no outcome to call on with makes a call. -/
  | call (s : Shared ι κ σ π ω) (i : ι) (c : Call π) (free : ∀ f, (i, f) ∉ s.due) :
    Step g s (s.reach g i c)
  /-- A caller calls on. -/
  | callOn {s : Shared ι κ σ π ω} {i : ι} {f : κ × Outcome ω}
    {before after : List (ι × κ × Outcome ω)} (due : s.due = before ++ (i, f) :: after) :
    Step g s { s with due := before ++ after, ran := s.ran ++ [f] }

/-- Any steps of any callers. -/
abbrev Reaches (g : Collector σ π ω) : Shared ι κ σ π ω → Shared ι κ σ π ω → Prop :=
  Relation.ReflTransGen (Step g)

/-- The calls that were accepted, in their order. -/
def accepted (s : Shared ι κ σ π ω) : List (Call π) :=
  (s.calls.filter fun e => e.2.2).map fun e => e.2.1

/-- What has been taken out to be called, whether it has been called or not. -/
def fired (s : Shared ι κ σ π ω) : List (κ × Outcome ω) :=
  s.ran ++ s.due.map Prod.snd

/-! ### What every step keeps -/

/-- The batch has kept to the course of the accepted calls. -/
def Sound (g : Collector σ π ω) (n : Nat) (k : κ) (s : Shared ι κ σ π ω) : Prop :=
  Course g n k s.accepted s.batch s.fired

theorem Sound.start (ι : Type) (g : Collector σ π ω) (n : Nat) (k : κ) :
    Sound g n k (start ι g n k) := by
  show Course g n k [] (Batch.new g n k).2 ((Batch.new g n k).1.toList ++ [])
  rw [List.append_nil]
  exact .new g n k

theorem accepted_reach (s : Shared ι κ σ π ω) (i : ι) (c : Call π) :
    (s.reach g i c).accepted =
      if (s.batch.call g c).1 then s.accepted ++ [c] else s.accepted := by
  rw [accepted, reach, List.filter_append, List.map_append]
  rcases (s.batch.call g c).1 with - | -
  · exact List.append_nil _
  · rfl

theorem fired_reach (s : Shared ι κ σ π ω) (i : ι) (c : Call π) :
    (s.reach g i c).fired = s.fired ++ (s.batch.call g c).2.1.toList := by
  rw [fired, fired, reach, List.map_append, List.map_map, List.append_assoc]
  congr 2
  exact List.map_id _

/-- There is only one outcome to call on with, and none has been before it. -/
theorem Sound.fired_of_due (h : Sound g n k s) {i : ι} {f : κ × Outcome ω}
    {before after : List (ι × κ × Outcome ω)} (due : s.due = before ++ (i, f) :: after) :
    s.ran = [] ∧ before = [] ∧ after = [] := by
  have length := h.length_fired
  rw [fired, due, List.length_append, List.length_map, List.length_append,
    List.length_cons] at length
  have one : (if s.batch.closed then 1 else 0) ≤ 1 := by split <;> simp
  refine ⟨List.length_eq_zero_iff.mp ?_, List.length_eq_zero_iff.mp ?_,
    List.length_eq_zero_iff.mp ?_⟩ <;> omega

theorem Sound.step (h : Sound g n k s) (step : Step g s s') : Sound g n k s' := by
  cases step with
  | call i c free =>
    rw [Sound, accepted_reach, fired_reach]
    exact h.call c
  | @callOn i f before after due =>
    obtain ⟨ran, rfl, rfl⟩ := h.fired_of_due due
    rw [Sound, fired, due, ran] at h
    show Course g n k s.accepted s.batch ((s.ran ++ [f]) ++ [])
    rw [ran]
    exact h

theorem Sound.reaches (h : Sound g n k s) (reaches : Reaches g s s') : Sound g n k s' := by
  induction reaches with
  | refl => exact h
  | tail _ step ih => exact ih.step step

/-! ### A closed batch -/

/-- A batch that is closed stays so, and no further call is accepted. -/
theorem Step.closed (step : Step g s s') (closed : s.batch.closed = true) :
    s'.batch = s.batch ∧ s'.accepted = s.accepted := by
  cases step with
  | call i c free =>
    rw [accepted_reach, reach, call_of_closed closed]
    exact ⟨rfl, rfl⟩
  | callOn due => exact ⟨rfl, rfl⟩

theorem closed_of_reaches (reaches : Reaches g s s') (closed : s.batch.closed = true) :
    s'.batch = s.batch ∧ s'.accepted = s.accepted := by
  induction reaches with
  | refl => exact ⟨rfl, rfl⟩
  | tail _ step ih =>
    obtain ⟨batch, calls⟩ := ih
    obtain ⟨batch', calls'⟩ := step.closed (batch ▸ closed)
    exact ⟨batch'.trans batch, calls'.trans calls⟩

/-! ### Sums -/

/-- Counts whose total is a word add up to it. -/
theorem finish_sum {parts : List Nat} (word : total parts ≤ wordMax) :
    Collector.sum.finish (parts.foldl Collector.sum.fold Collector.sum.start) = total parts := by
  show parts.foldl Collector.sum.fold 0 = _
  rw [foldl_sum parts 0 (Nat.zero_le _), Nat.zero_add, Nat.mod_eq_of_lt (Nat.lt_succ_of_le word)]

theorem total_perm {ms ns : List Nat} (h : ms.Perm ns) : total ms = total ns := by
  show ms.sum = ns.sum
  exact h.sum_eq

/-! ### Once and no more -/

/-- What callers can rely on. -/
structure FiresOnce (g : Collector σ π ω) (n : Nat) (k : κ) (s : Shared ι κ σ π ω) : Prop where
  /-- What is called, and the outcome is the one that the accepted calls come to. -/
  course : Course g n k s.accepted s.batch s.fired
  once : s.ran.length ≤ 1
  /-- A closed batch has called with its outcome, unless a caller is about to do so. -/
  fired : s.batch.closed = true → s.due = [] → s.ran = s.fired ∧ s.ran.length = 1
  /-- Nothing is left in a closed batch, so that nothing more can come of it. -/
  emptied : s.batch.closed = true →
    s.batch.remaining = 0 ∧ s.batch.gathered = none ∧ s.batch.onDone = none
  /-- What the next call returns. -/
  returns : ∀ c, (s.batch.call g c).1 = true ↔ s.batch.closed = false
  remaining : s.batch.remaining = if s.batch.closed then 0 else n - s.accepted.length
  /-- A batch is not opened again. -/
  stays : ∀ s', Reaches g s s' → s.batch.closed = true →
    s'.batch.closed = true ∧ s'.accepted = s.accepted

theorem Sound.firesOnce (h : Sound g n k s) : FiresOnce g n k s where
  course := h
  once := by
    have length := h.length_fired
    rw [Shared.fired, List.length_append] at length
    split at length <;> omega
  fired := by
    intro closed none
    have all : s.fired = s.ran := by
      rw [Shared.fired, none]
      exact List.append_nil _
    have length := h.length_fired
    rw [all, if_pos closed] at length
    exact ⟨all.symm, length⟩
  emptied := by
    intro closed
    have left := h.holds
    rwa [if_pos closed] at left
  returns := fun _ => call_eq_true
  remaining := h.remaining_eq
  stays := by
    intro s' reaches closed
    obtain ⟨batch, calls⟩ := closed_of_reaches reaches closed
    exact ⟨batch ▸ closed, calls⟩

/-- The total of the counts, if that is a word, is the outcome of a batch that has them all. -/
theorem Sound.fired_sum {s : Shared ι κ Nat Nat Nat} {parts : List Nat} (h : Sound .sum n k s)
    (accepted : s.accepted = parts.map .complete) (all : parts.length = n)
    (word : total parts ≤ wordMax) : s.fired = [(k, .done (total parts))] := by
  rw [Sound, accepted] at h
  rcases h.of_parts with ⟨few, -⟩ | ⟨-, fired, -⟩
  · exact absurd all few.ne
  · rw [fired, finish_sum word]

/-- Callers share a batch that expects so many parts, and take turns in any way.  Then what it was given to
call is called once at most, with its outcome: all parts that were accepted, in the order in which they
were, or the first failure that was accepted before all of them were there.  A batch that expects nothing
is done before anybody shares it.  Counts whose total is a word add up to it, in whatever order they
come. -/
theorem fires_once {ι κ : Type} (k : κ) :
    (∀ {σ π ω : Type} (g : Collector σ π ω) (n : Nat),
      ((start ι g n k).ran = if n = 0 then [(k, .done (g.finish g.start))] else []) ∧
      ∀ s, Reaches g (start ι g n k) s → FiresOnce g n k s) ∧
    ∀ (n : Nat) (s : Shared ι κ Nat Nat Nat) (parts : List Nat),
      Reaches .sum (start ι .sum n k) s → s.accepted = parts.map .complete → parts.length = n →
      total parts ≤ wordMax → s.fired = [(k, .done (total parts))] ∧
      ∀ (s' : Shared ι κ Nat Nat Nat) (others : List Nat), Reaches .sum (start ι .sum n k) s' →
        s'.accepted = others.map .complete → others.Perm parts → s'.fired = s.fired := by
  constructor
  · intro σ π ω g n
    refine ⟨?_, fun s reaches => ((Sound.start ι g n k).reaches reaches).firesOnce⟩
    rw [start, Batch.new]
    split <;> rfl
  · intro n s parts reaches accepted all word
    have sound := (Sound.start ι .sum n k).reaches reaches
    have sum := sound.fired_sum accepted all word
    refine ⟨sum, fun s' others reaches' accepted' perm => ?_⟩
    have same := total_perm perm
    have sound' := (Sound.start ι .sum n k).reaches reaches'
    rw [sum, sound'.fired_sum accepted' (perm.length_eq.trans all) (same ▸ word), same]

end Shared

end Scrollback.Batch
