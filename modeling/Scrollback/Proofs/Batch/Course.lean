/-
The course of a batch.  Of the calls that reach a batch some are accepted, and these alone say what
has become of it (`Batch.Course`): it waits for more parts, or it has all of them and is done with
what they come to, or it has failed by the one failure that was accepted.  Every call keeps to the
course (`Batch.Course.call`), and a batch that is closed accepts nothing (`Batch.call_eq_true`).
-/
import Mathlib
import Scrollback.Batch
import Scrollback.Total

namespace Scrollback.Batch

/-- What can be asked of a batch. -/
inductive Call (π : Type) where
  | complete (part : π)
  | fail (reason : String)
  deriving DecidableEq, Repr

variable {κ σ π ω : Type} {g : Collector σ π ω} {n : Nat} {k : κ} {b : Batch κ σ} {c : Call π}

/-! ### One call -/

/-- A call reaches a batch: whether it is accepted, and what is to be called if it has closed the
batch. -/
def call (g : Collector σ π ω) (b : Batch κ σ) : Call π → Bool × Option (κ × Outcome ω) × Batch κ σ
  | .complete part => b.complete g part
  | .fail reason => b.fail reason

/-- A closed batch is left as it is. -/
theorem call_of_closed (closed : b.closed = true) : b.call g c = (false, none, b) := by
  cases c with
  | complete part => exact if_pos closed
  | fail reason => exact if_pos closed

/-- A call is accepted just as long as the batch is open. -/
theorem call_eq_true : (b.call g c).1 = true ↔ b.closed = false := by
  cases closed : b.closed with
  | true => simp [call_of_closed closed]
  | false => cases c <;> simp [call, complete, fail, closed]

/-! ### The accepted calls -/

/-- What becomes of a batch that expects so many parts, by the calls that it has accepted: the
batch, and what has been called with which outcome. -/
inductive Course (g : Collector σ π ω) (n : Nat) (k : κ) :
    List (Call π) → Batch κ σ → List (κ × Outcome ω) → Prop
  /-- Some parts, but fewer than expected. -/
  | waiting {parts : List π} (few : parts.length < n) :
    Course g n k (parts.map .complete)
      ⟨n - parts.length, false, some (parts.foldl g.fold g.start), some k⟩ []
  /-- All parts. -/
  | done {parts : List π} (all : parts.length = n) :
    Course g n k (parts.map .complete) ⟨0, true, none, none⟩
      [(k, .done (g.finish (parts.foldl g.fold g.start)))]
  /-- A failure before all parts were there. -/
  | failed {parts : List π} {reason : String} (few : parts.length < n) :
    Course g n k (parts.map .complete ++ [.fail reason]) ⟨0, true, none, none⟩
      [(k, .failed reason)]

namespace Course

variable {accepted : List (Call π)} {fired : List (κ × Outcome ω)} {parts : List π}

/-- A new batch has accepted nothing. -/
theorem new (g : Collector σ π ω) (n : Nat) (k : κ) :
    Course g n k [] (Batch.new g n k).2 (Batch.new g n k).1.toList := by
  rw [Batch.new]
  split
  · next none => exact @Course.done κ σ π ω g n k [] none.symm
  · next some => exact @Course.waiting κ σ π ω g n k [] (Nat.pos_of_ne_zero some)

/-- Every call keeps to the course, and counts if it is accepted. -/
theorem call (h : Course g n k accepted b fired) (c : Call π) :
    Course g n k (if (b.call g c).1 then accepted ++ [c] else accepted) (b.call g c).2.2
      (fired ++ (b.call g c).2.1.toList) := by
  cases h with
  | @waiting parts few =>
    cases c with
    | complete part =>
      have more : (parts ++ [part]).map Call.complete = parts.map .complete ++ [.complete part] :=
        List.map_append
      have folded : (parts ++ [part]).foldl g.fold g.start =
          g.fold (parts.foldl g.fold g.start) part := by
        rw [List.foldl_append]
        rfl
      by_cases last : n - parts.length - 1 = 0
      · -- the part that was still missing
        have all : (parts ++ [part]).length = n := by
          rw [List.length_append, List.length_singleton]
          omega
        have closes := @Course.done κ σ π ω g n k _ all
        rw [more, folded] at closes
        simpa [Batch.call, complete, last, finish, close] using closes
      · have few : (parts ++ [part]).length < n := by
          rw [List.length_append, List.length_singleton]
          omega
        have waits := @Course.waiting κ σ π ω g n k _ few
        rw [more, folded, List.length_append, List.length_singleton, ← Nat.sub_sub] at waits
        simpa [Batch.call, complete, last] using waits
    | fail reason => exact .failed few
  | done all =>
    rw [call_of_closed rfl]
    simpa using Course.done all
  | failed few =>
    rw [call_of_closed rfl]
    simpa using Course.failed few

/-- As long as a batch is open it has what it needs to close; nothing is left in a closed one. -/
theorem holds (h : Course g n k accepted b fired) :
    if b.closed then b.remaining = 0 ∧ b.gathered = none ∧ b.onDone = none
    else 0 < b.remaining ∧ b.gathered.isSome = true ∧ b.onDone = some k := by
  cases h with
  | waiting few => exact ⟨Nat.sub_pos_of_lt few, rfl, rfl⟩
  | done all => exact ⟨rfl, rfl, rfl⟩
  | failed few => exact ⟨rfl, rfl, rfl⟩

/-- A closed batch has made one call, and an open one none. -/
theorem length_fired (h : Course g n k accepted b fired) :
    fired.length = if b.closed then 1 else 0 := by
  cases h with
  | waiting few => rfl
  | done all => rfl
  | failed few => rfl

/-- An open batch waits for the parts that have not been accepted; a closed one for none. -/
theorem remaining_eq (h : Course g n k accepted b fired) :
    b.remaining = if b.closed then 0 else n - accepted.length := by
  cases h with
  | @waiting parts few =>
    rw [List.length_map]
    rfl
  | done all => rfl
  | failed few => rfl

/-- Without a failure a batch waits for the parts that are missing, or is done with all of them. -/
theorem of_parts (h : Course g n k (parts.map .complete) b fired) :
    (parts.length < n ∧ fired = [] ∧
      b = ⟨n - parts.length, false, some (parts.foldl g.fold g.start), some k⟩) ∨
    (parts.length = n ∧ fired = [(k, .done (g.finish (parts.foldl g.fold g.start)))] ∧
      b = ⟨0, true, none, none⟩) := by
  have injective : Function.Injective (Call.complete (π := π)) := by
    rintro _ _ ⟨⟩
    rfl
  generalize same : parts.map Call.complete = calls at h
  cases h with
  | @waiting others few =>
    obtain rfl := List.map_injective_iff.mpr injective same
    exact .inl ⟨few, rfl, rfl⟩
  | @done others all =>
    obtain rfl := List.map_injective_iff.mpr injective same
    exact .inr ⟨all, rfl, rfl⟩
  | @failed others reason few =>
    -- no failure stands among parts
    have mem : Call.fail reason ∈ parts.map Call.complete := by
      rw [same]
      simp
    simp at mem

end Course

/-! ### Sums -/

/-- Counts add up to what is left of their total in a word. -/
theorem foldl_sum (parts : List Nat) (acc : Nat) (word : acc ≤ wordMax) :
    parts.foldl Collector.sum.fold acc = (acc + total parts) % (wordMax + 1) := by
  induction parts generalizing acc with
  | nil =>
    rw [total_nil, Nat.add_zero, Nat.mod_eq_of_lt (Nat.lt_succ_of_le word)]
    rfl
  | cons part parts ih =>
    rw [List.foldl_cons, ih]
    · show ((acc + part) % (wordMax + 1) + total parts) % (wordMax + 1) = _
      rw [Nat.mod_add_mod, total_cons, Nat.add_assoc]
    · exact Nat.le_of_lt_succ (Nat.mod_lt _ (Nat.succ_pos _))

end Scrollback.Batch
