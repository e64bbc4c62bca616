/-
Computations that may fail, taken apart: when a sequence of them succeeds, and with which failure
it ends.  The readers of stored logs are such sequences, so what they accept is read off from the
lemmas here, one for each way in which computations are combined.
-/
import Mathlib

namespace Except

variable {ε ε' α β : Type}

theorem bind_eq_ok {x : Except ε α} {f : α → Except ε β} {b : β} :
    x >>= f = .ok b ↔ ∃ a, x = .ok a ∧ f a = .ok b := by
  rcases x with e | a <;> simp [bind, Except.bind]

theorem map_eq_ok {x : Except ε α} {f : α → β} {b : β} :
    x.map f = .ok b ↔ ∃ a, x = .ok a ∧ f a = b := by
  rcases x with e | a <;> simp [Except.map]

theorem mapError_eq_ok {x : Except ε α} {f : ε → ε'} {a : α} :
    x.mapError f = .ok a ↔ x = .ok a := by
  rcases x with e | a <;> simp [Except.mapError]

theorem pure_eq_ok {a b : α} : (pure a : Except ε α) = .ok b ↔ a = b := by
  simp [pure, Except.pure]

theorem throw_ne_ok {e : ε} {b : α} : (throw e : Except ε α) = .ok b ↔ False := by
  simp [throw, throwThe, MonadExceptOf.throw]

/-- A check that throws, and the rest of the computation after it. -/
theorem throw_if_bind_eq_ok {c : Prop} [Decidable c] {e : ε} {f : PUnit → Except ε β}
    {y : Except ε β} {b : β} :
    (if c then throw e >>= f else y) = .ok b ↔ ¬c ∧ y = .ok b := by
  by_cases hc : c <;> simp [hc, bind, Except.bind, throw, throwThe, MonadExceptOf.throw]

/-! ### Lists of computations -/

theorem mapM_eq_ok {xs : List α} {f : α → Except ε β} {ys : List β} :
    xs.mapM f = .ok ys ↔ List.Forall₂ (fun x y => f x = .ok y) xs ys := by
  induction xs generalizing ys with
  | nil =>
    rw [List.mapM_nil, pure_eq_ok, List.forall₂_nil_left_iff]
    exact eq_comm
  | cons x xs ih =>
    rw [List.mapM_cons, List.forall₂_cons_left_iff, bind_eq_ok]
    constructor
    · rintro ⟨y, hy, h⟩
      obtain ⟨ys', hys', h⟩ := bind_eq_ok.mp h
      exact ⟨y, ys', hy, ih.mp hys', (pure_eq_ok.mp h).symm⟩
    · rintro ⟨y, ys', hy, hys', rfl⟩
      exact ⟨y, hy, bind_eq_ok.mpr ⟨ys', ih.mpr hys', pure_eq_ok.mpr rfl⟩⟩

/-- The computations numbered from zero succeed together exactly when each of them does. -/
theorem mapM_range_eq_ok {n : Nat} {f : Nat → Except ε β} {ys : List β} :
    (List.range n).mapM f = .ok ys ↔
      ys.length = n ∧ ∀ i (h : i < ys.length), f i = .ok ys[i] := by
  rw [mapM_eq_ok, List.forall₂_iff_get]
  simp only [List.length_range, List.get_eq_getElem, List.getElem_range]
  constructor
  · rintro ⟨rfl, h⟩
    exact ⟨rfl, fun i hi => h i hi hi⟩
  · rintro ⟨rfl, h⟩
    exact ⟨rfl, fun i hi _ => h i hi⟩

/-- The first computation that fails is the failure of all. -/
theorem mapM_eq_error {xs zs : List α} {x : α} {f : α → Except ε β} {e : ε}
    (hxs : ∀ a ∈ xs, ∃ b, f a = .ok b) (hx : f x = .error e) :
    (xs ++ x :: zs).mapM f = .error e := by
  induction xs with
  | nil => simp [hx, bind, Except.bind]
  | cons a xs ih =>
    obtain ⟨b, hb⟩ := hxs a List.mem_cons_self
    have ih := ih fun a ha => hxs a (List.mem_cons_of_mem _ ha)
    simp only [List.cons_append, List.mapM_cons, hb, ih]
    rfl

theorem mapM_range_eq_error {n k : Nat} {f : Nat → Except ε β} {e : ε} (hk : k < n)
    (hlow : ∀ i < k, ∃ b, f i = .ok b) (hf : f k = .error e) :
    (List.range n).mapM f = .error e := by
  obtain ⟨m, rfl⟩ := Nat.exists_eq_add_of_lt hk
  have split : List.range (k + m + 1) =
      List.range k ++ k :: (List.range m).map (k + 1 + ·) := by
    rw [Nat.add_right_comm, List.range_add, List.range_succ]
    simp
  rw [split]
  exact mapM_eq_error (fun i hi => hlow i (List.mem_range.mp hi)) hf

end Except

/-- What stands on the right of a pairing has a partner on the left. -/
theorem List.Forall₂.exists_left {α β : Type} {R : α → β → Prop} {xs : List α} {ys : List β}
    {y : β} (h : List.Forall₂ R xs ys) (hy : y ∈ ys) : ∃ x ∈ xs, R x y := by
  obtain ⟨i, hi, rfl⟩ := List.getElem_of_mem hy
  have hx : i < xs.length := h.length_eq ▸ hi
  exact ⟨xs[i], List.getElem_mem hx, h.get hx hi⟩

/-- What exists for each number exists as a list. -/
theorem List.exists_of_forall_lt {α : Type} {n : Nat} {P : Nat → α → Prop}
    (h : ∀ i < n, ∃ a, P i a) :
    ∃ xs : List α, xs.length = n ∧ ∀ i (hi : i < xs.length), P i xs[i] := by
  induction n with
  | zero => exact ⟨[], rfl, fun i hi => absurd hi (Nat.not_lt_zero i)⟩
  | succ n ih =>
    obtain ⟨xs, rfl, hxs⟩ := ih fun i hi => h i (Nat.lt_succ_of_lt hi)
    obtain ⟨a, ha⟩ := h xs.length (Nat.lt_succ_self _)
    refine ⟨xs ++ [a], by simp, fun i hi => ?_⟩
    rcases Nat.lt_or_ge i xs.length with lt | ge
    · rw [List.getElem_append_left lt]
      exact hxs i lt
    · obtain rfl : i = xs.length := by
        rw [List.length_append, List.length_singleton] at hi
        omega
      simpa using ha

/-- Entries of other keys do not matter where a key is looked up. -/
theorem List.lookup_filter_ne {κ α : Type} [BEq κ] [LawfulBEq κ] [DecidableEq κ]
    {es : List (κ × α)} {k other : κ} (h : other ≠ k) :
    (es.filter fun e => e.1 ≠ k).lookup other = es.lookup other := by
  induction es with
  | nil => rfl
  | cons e es ih =>
    obtain ⟨key, v⟩ := e
    by_cases same : key = k
    · rw [List.filter_cons_of_neg (by simp [same]), ih, List.lookup_cons,
        beq_eq_false_iff_ne.mpr (same ▸ h)]
    · rw [List.filter_cons_of_pos (by simp [same]), List.lookup_cons, List.lookup_cons, ih]

/-- Without its entries a key is not found. -/
theorem List.lookup_filter_self {κ α : Type} [BEq κ] [LawfulBEq κ] [DecidableEq κ]
    (es : List (κ × α)) (k : κ) : (es.filter fun e => e.1 ≠ k).lookup k = none := by
  rw [List.lookup_eq_none_iff]
  intro e he
  rw [bne_iff_ne]
  exact (of_decide_eq_true (List.mem_filter.mp he).2).symm

/-- Where each of some items is made into something, so are all of them. -/
theorem List.mapM_map_eq_some {α β γ : Type} {f : β → Option γ} {g : α → β} {k : α → γ}
    {xs : List α} (h : ∀ x ∈ xs, f (g x) = some (k x)) : (xs.map g).mapM f = some (xs.map k) := by
  induction xs with
  | nil => rfl
  | cons x xs ih =>
    rw [List.map_cons, List.mapM_cons, h x List.mem_cons_self,
      ih fun y hy => h y (List.mem_cons_of_mem _ hy)]
    rfl

/-- Where one of some items cannot be made into anything, neither can all of them. -/
theorem List.mapM_eq_none {α β : Type} {f : α → Option β} {xs : List α} {x : α} (mem : x ∈ xs)
    (none : f x = none) : xs.mapM f = .none := by
  induction xs with
  | nil => cases mem
  | cons first xs ih =>
    rw [List.mapM_cons]
    rcases List.mem_cons.mp mem with rfl | mem
    · rw [none]
      rfl
    · rw [ih mem]
      rcases f first with - | y
      · rfl
      · rfl
