/-
A larger memory misses nothing that a smaller one finds.

What is asked of two memories changes them differently: a key that only the larger one knows comes to
the front there, and nothing happens in the other.  Still the entries of the smaller one stand among
those of the larger one in the same order, and the smaller one never has more room left
(`Recency.Within`).  So the larger one drives out an entry only when the smaller one does too, and then
one that the smaller one does not keep.  Each operation keeps this (`Recency.Within.step`), and so does
every run; a slab shows the same (`Slab.finds_of_larger`).
-/
import Scrollback.Proofs.Recency.Refinement

namespace Scrollback

/-- Without their last elements, a list is still part of another. -/
theorem dropLast_sublist_dropLast {α : Type} {xs ys : List α} (h : xs.Sublist ys) :
    xs.dropLast.Sublist ys.dropLast := by
  have tails := h.reverse.tail.reverse
  rwa [List.tail_reverse, List.tail_reverse, List.reverse_reverse, List.reverse_reverse] at tails

namespace Recency

variable {κ α : Type}

/-- The operation sets the capacity. -/
def Op.Resizes : Op κ α → Prop
  | .resize _ => True
  | _ => False

/-- The other answer has found whatever this one has. -/
def Answer.FoundBy : Answer κ α → Answer κ α → Prop
  | .value (some v), other => other = .value (some v)
  | .found true, other => other = .found true
  | _, _ => True

/-- The entries of a memory stand in the same order among those of another, and it has no more room
left than the other has. -/
structure Within (small large : Recency κ α) : Prop where
  entries : small.entries.Sublist large.entries
  room : large.capacity ≠ 0 →
    small.capacity ≠ 0 ∧ large.size + small.capacity ≤ small.size + large.capacity

variable {small large r : Recency κ α} {k : κ} {v : α}

theorem Within.known (h : small.Within large) (known : k ∈ small.keys) : k ∈ large.keys :=
  (h.entries.map Prod.fst).subset known

theorem Within.size_le (h : small.Within large) : small.size ≤ large.size :=
  h.entries.length_le

/-- The capacities are in order, zero being none at all. -/
theorem Within.ordered (h : small.Within large) :
    large.capacity = 0 ∨ small.capacity ≠ 0 ∧ small.capacity ≤ large.capacity := by
  by_cases bounded : large.capacity = 0
  · exact .inl bounded
  · obtain ⟨nonzero, room⟩ := h.room bounded
    have := h.size_le
    exact .inr ⟨nonzero, by omega⟩

/-- Two new memories, the one no larger than the other. -/
theorem within_empty {few many : Nat} (ordered : many = 0 ∨ few ≠ 0 ∧ few ≤ many) :
    (empty few : Recency κ α).Within (empty many) where
  entries := List.nil_sublist _
  room bounded := by
    rcases ordered with unbounded | ⟨nonzero, le⟩
    · exact absurd unbounded bounded
    · exact ⟨nonzero, Nat.add_le_add_left le _⟩

/-- Where the larger memory has no room, the smaller one has none. -/
theorem Within.isFull (h : small.Within large) (full : large.isFull = true) :
    small.isFull = true := by
  rw [isFull_eq_true] at full ⊢
  obtain ⟨nonzero, room⟩ := h.room full.1
  exact ⟨nonzero, by omega⟩

/-- Both drop their last entry, which is one and the same if the smaller memory has that of the
larger one. -/
theorem Within.dropLast (h : small.Within large) : small.dropLast.2.Within large.dropLast.2 where
  entries := dropLast_sublist_dropLast h.entries
  room bounded := by
    obtain ⟨nonzero, room⟩ := h.room bounded
    have size := h.size_le
    refine ⟨nonzero, ?_⟩
    simp only [Recency.dropLast, Recency.size, List.length_dropLast] at *
    omega

/-! ### Room for a new key -/

/-- The memory with room for one more entry. -/
def withRoom (r : Recency κ α) : Recency κ α :=
  if r.isFull then r.dropLast.2 else r

/-- The memory with one more entry in front. -/
def entered (r : Recency κ α) (k : κ) (v : α) : Recency κ α :=
  { r with entries := (k, v) :: r.entries }

theorem withRoom_sublist (r : Recency κ α) : r.withRoom.entries.Sublist r.entries := by
  rw [withRoom]
  split
  · exact List.dropLast_sublist _
  · exact .refl _

theorem capacity_withRoom (r : Recency κ α) : r.withRoom.capacity = r.capacity := by
  rw [withRoom]
  split <;> rfl

theorem size_le_withRoom (r : Recency κ α) : r.size ≤ r.withRoom.size + 1 := by
  rw [withRoom]
  split
  · simp only [dropLast, size, List.length_dropLast]
    omega
  · exact Nat.le_succ _

namespace Within

theorem withRoom (h : small.Within large) : small.withRoom.Within large.withRoom := by
  rw [Recency.withRoom, Recency.withRoom]
  by_cases full : large.isFull = true
  · rw [if_pos full, if_pos (h.isFull full)]
    exact h.dropLast
  · rw [if_neg full]
    split
    · next smallFull =>
      -- the larger memory has at least the place that falls vacant in the smaller one
      refine ⟨(List.dropLast_sublist _).trans h.entries, fun bounded => ?_⟩
      obtain ⟨nonzero, -⟩ := h.room bounded
      rw [isFull_eq_true] at smallFull
      rw [isFull_eq_true, not_and, not_le] at full
      have := full bounded
      refine ⟨nonzero, ?_⟩
      simp only [Recency.dropLast, Recency.size, List.length_dropLast] at *
      omega
    · exact h

theorem entered (h : small.Within large) (k : κ) (v : α) :
    (small.entered k v).Within (large.entered k v) where
  entries := h.entries.cons_cons _
  room bounded := by
    obtain ⟨nonzero, room⟩ := h.room bounded
    refine ⟨nonzero, ?_⟩
    simp only [Recency.entered, Recency.size, List.length_cons] at *
    omega

end Within

variable [DecidableEq κ]

/-! ### A key that comes to the front -/

/-- The memory with an entry for a key in front of all others. -/
def toFront (r : Recency κ α) (k : κ) (v : α) : Recency κ α :=
  { r with entries := (k, v) :: r.others k }

theorem put_of_mem (known : k ∈ r.keys) : r.put k v = (none, r.toFront k v) := by
  rw [put, if_pos (contains_eq_true.mpr known), toFront]

theorem modify_of_peek? {f : α → α} (found : r.peek? k = some v) :
    r.modify k f = (some (f v), r.toFront k (f v)) := by
  rw [modify, found, toFront]

theorem fst_modify (r : Recency κ α) (k : κ) (f : α → α) :
    (r.modify k f).1 = (r.peek? k).map f := by
  rw [modify]
  rcases r.peek? k with - | v <;> rfl

theorem peek?_of_mem (nodup : r.keys.Nodup) (h : (k, v) ∈ r.entries) : r.peek? k = some v := by
  obtain ⟨pre, post, split⟩ := List.append_of_mem h
  exact peek?_of_split nodup split

theorem not_mem_of_peek? (absent : r.peek? k = none) : k ∉ r.keys := by
  intro known
  obtain ⟨e, he, rfl⟩ := List.mem_map.mp known
  have other := List.lookup_eq_none_iff.mp absent e he
  simp at other

theorem size_others (nodup : r.keys.Nodup) (known : k ∈ r.keys) :
    (r.others k).length + 1 = r.size := by
  obtain ⟨pre, old, post, split⟩ := exists_split known
  rw [others_of_split nodup split, size, split]
  simp only [List.length_append, List.length_cons]
  omega

theorem size_toFront (nodup : r.keys.Nodup) (known : k ∈ r.keys) : (r.toFront k v).size = r.size :=
  size_others nodup known

namespace Within

theorem others (h : small.Within large) (k : κ) : (small.others k).Sublist (large.others k) :=
  h.entries.filter _

/-- What the smaller memory finds is found in the larger one. -/
theorem peek? (h : small.Within large) (sound : large.Sound) (found : small.peek? k = some v) :
    large.peek? k = some v :=
  peek?_of_mem sound.nodup (h.entries.subset (mem_of_peek? found))

theorem contains (h : small.Within large) (found : small.contains k = true) :
    large.contains k = true :=
  contains_eq_true.mpr (h.known (contains_eq_true.mp found))

/-- A key that both know comes to the front in both. -/
theorem toFront (h : small.Within large) (nodup : small.keys.Nodup) (nodup' : large.keys.Nodup)
    (known : k ∈ small.keys) (v : α) : (small.toFront k v).Within (large.toFront k v) where
  entries := (h.others k).cons_cons _
  room := by
    rw [size_toFront nodup known, size_toFront nodup' (h.known known)]
    exact h.room

/-- A key that only the larger memory knows comes to the front there. -/
theorem toFront_large (h : small.Within large) (nodup : large.keys.Nodup)
    (unknown : k ∉ small.keys) (known : k ∈ large.keys) (v : α) :
    small.Within (large.toFront k v) where
  entries := by
    have sub := h.others k
    rw [others_of_not_mem unknown] at sub
    exact sub.cons _
  room := by
    rw [size_toFront nodup known]
    exact h.room

end Within

/-! ### A key that is new -/

theorem put_of_new (unknown : k ∉ r.keys) : (r.put k v).2 = r.withRoom.entered k v := by
  rw [put_of_not_mem unknown, withRoom]
  split <;> rfl

namespace Within

/-- A key that is new to the smaller memory only. -/
theorem entered_toFront (h : small.Within large) (nodup : large.keys.Nodup)
    (unknown : k ∉ small.keys) (known : k ∈ large.keys) (v : α) :
    (small.withRoom.entered k v).Within (large.toFront k v) where
  entries := by
    have sub := h.others k
    rw [others_of_not_mem unknown] at sub
    exact ((withRoom_sublist small).trans sub).cons_cons _
  room bounded := by
    obtain ⟨nonzero, room⟩ := h.room bounded
    refine ⟨(capacity_withRoom small).trans_ne nonzero, ?_⟩
    have size := size_le_withRoom small
    rw [size_toFront nodup known]
    simp only [Recency.entered, capacity_withRoom, Recency.size, List.length_cons] at *
    exact room.trans (Nat.add_le_add_right size _)

/-! ### What the operations keep -/

theorem put (h : small.Within large) (sound : small.Sound) (sound' : large.Sound) (k : κ) (v : α) :
    (small.put k v).2.Within (large.put k v).2 := by
  by_cases known : k ∈ small.keys
  · rw [put_of_mem known, put_of_mem (h.known known)]
    exact h.toFront sound.nodup sound'.nodup known v
  · rw [put_of_new known]
    by_cases known' : k ∈ large.keys
    · rw [put_of_mem known']
      exact h.entered_toFront sound'.nodup known known' v
    · rw [put_of_new known']
      exact h.withRoom.entered k v

theorem modify (h : small.Within large) (sound : small.Sound) (sound' : large.Sound) (k : κ)
    (f : α → α) : (small.modify k f).2.Within (large.modify k f).2 := by
  rcases found : small.peek? k with - | v
  · have unknown := not_mem_of_peek? found
    rw [modify_of_not_mem unknown]
    by_cases known' : k ∈ large.keys
    · obtain ⟨pre, v, post, split⟩ := exists_split known'
      rw [modify_of_peek? (peek?_of_split sound'.nodup split)]
      exact h.toFront_large sound'.nodup unknown known' (f v)
    · rw [modify_of_not_mem known']
      exact h
  · rw [modify_of_peek? found, modify_of_peek? (h.peek? sound' found)]
    have known : k ∈ small.keys := List.mem_map_of_mem (mem_of_peek? found)
    exact h.toFront sound.nodup sound'.nodup known (f v)

theorem remove (h : small.Within large) (sound : small.Sound) (sound' : large.Sound) (k : κ) :
    (small.remove k).2.Within (large.remove k).2 where
  entries := h.others k
  room bounded := by
    obtain ⟨nonzero, room⟩ := h.room bounded
    refine ⟨nonzero, ?_⟩
    show (large.others k).length + small.capacity ≤ (small.others k).length + large.capacity
    by_cases known : k ∈ small.keys
    · -- both have one entry less
      have := size_others sound.nodup known
      have := size_others sound'.nodup (h.known known)
      omega
    · rw [others_of_not_mem known]
      exact (Nat.add_le_add_right (List.length_filter_le _ _) _).trans room

/-! ### Runs -/

/-- What the smaller memory finds and changes is found and changed alike in the larger one. -/
theorem foundBy (h : small.Within large) (sound : large.Sound) (k : κ) (f : α → α) :
    Answer.FoundBy (.value ((small.peek? k).map f) : Answer κ α)
      (.value ((large.peek? k).map f)) := by
  rcases found : small.peek? k with - | v
  · trivial
  · rw [h.peek? sound found]
    rfl

theorem foundBy_peek? (h : small.Within large) (sound : large.Sound) (k : κ) :
    Answer.FoundBy (.value (small.peek? k) : Answer κ α) (.value (large.peek? k)) := by
  simpa using h.foundBy sound k id

theorem foundBy_modify (h : small.Within large) (sound : large.Sound) (k : κ) (f : α → α) :
    Answer.FoundBy (.value (small.modify k f).1 : Answer κ α) (.value (large.modify k f).1) := by
  rw [fst_modify, fst_modify]
  exact h.foundBy sound k f

/-- Whatever is asked of both, short of a new capacity, the larger memory finds what the smaller one
finds, and keeps what it keeps. -/
theorem step (h : small.Within large) (sound : small.Sound) (sound' : large.Sound) {op : Op κ α}
    (fixed : ¬op.Resizes) : (small.step op).1.FoundBy (large.step op).1 ∧
      (small.step op).2.Within (large.step op).2 := by
  cases op with
  | put k v => exact ⟨trivial, h.put sound sound' k v⟩
  | get k => exact ⟨h.foundBy_modify sound' k id, h.modify sound sound' k id⟩
  | getMut k f => exact ⟨h.foundBy_modify sound' k f, h.modify sound sound' k f⟩
  | peek k => exact ⟨h.foundBy_peek? sound' k, h⟩
  | contains k =>
    refine ⟨?_, h⟩
    rcases found : small.contains k
    · simp only [Recency.step, found, Answer.FoundBy]
    · simp only [Recency.step, found, Answer.FoundBy, h.contains found]
  | remove k => exact ⟨h.foundBy_peek? sound' k, h.remove sound sound' k⟩
  | popLru => exact ⟨trivial, h.dropLast⟩
  | resize capacity => exact absurd trivial fixed
  | clear => exact ⟨trivial, within_empty h.ordered⟩
  | iter => exact ⟨trivial, h⟩

theorem run (h : small.Within large) (sound : small.Sound) (sound' : large.Sound)
    {ops : List (Op κ α)} (fixed : ∀ op ∈ ops, ¬op.Resizes) :
    List.Forall₂ Answer.FoundBy (small.run ops).1 (large.run ops).1 ∧
      (small.run ops).2.Within (large.run ops).2 := by
  induction ops generalizing small large with
  | nil => exact ⟨.nil, h⟩
  | cons op ops ih =>
    obtain ⟨found, within⟩ := h.step sound sound' (fixed op List.mem_cons_self)
    obtain ⟨rest, within'⟩ := ih within (sound.step op) (sound'.step op)
      fun op' hop => fixed op' (List.mem_cons_of_mem op hop)
    exact ⟨.cons found rest, within'⟩

end Within

end Recency

/-! ### Slabs -/

namespace Slab

open Recency (Op Answer)

variable {κ α : Type} [DecidableEq κ] [Hashable κ]

/-- A larger slab never misses what a smaller one finds.  The same is asked of two new slabs, anything
but another capacity; then whatever an answer of the smaller one has found, the larger one's answer
has found too, and every key of the smaller one is a key of the larger one, with the same value.  The
entries even stand in the same order. -/
theorem finds_of_larger {few many : Nat} (ordered : many = 0 ∨ few ≠ 0 ∧ few ≤ many)
    {ops : List (Op κ α)} (fixed : ∀ op ∈ ops, ¬op.Resizes) :
    let small := (Slab.empty few : Slab κ α).run ops
    let large := (Slab.empty many : Slab κ α).run ops
    List.Forall₂ Answer.FoundBy small.1 large.1 ∧
      (∀ k, small.2.contains k = true → large.2.contains k = true) ∧
      (∀ k v, small.2.peek? k = some v → large.2.peek? k = some v) ∧
      small.2.entries.Sublist large.2.entries := by
  intro small large
  have follows := (Shows.empty few : (Slab.empty few : Slab κ α).Shows _).run ops
  have follows' := (Shows.empty many : (Slab.empty many : Slab κ α).Shows _).run ops
  have sound : (Recency.empty few : Recency κ α).Sound := .empty few
  have sound' : (Recency.empty many : Recency κ α).Sound := .empty many
  obtain ⟨found, within⟩ := (Recency.within_empty ordered).run sound sound' fixed
  refine ⟨?_, fun k => ?_, fun k v => ?_, ?_⟩
  · rwa [follows.answer, follows'.answer]
  · rw [follows.shows.contains, follows'.shows.contains]
    exact within.contains
  · rw [(follows.shows.peek k).2, (follows'.shows.peek k).2]
    exact within.peek? (sound'.run ops)
  · rw [follows.shows.entries, follows'.shows.entries]
    exact within.entries

/-- A key that the smaller slab has driven out comes to the front in the larger one, and a later one
is still found in both. -/
theorem finds_of_larger_reordered :
    let ops : List (Op String Nat) := [.put "a" 1, .put "b" 2, .get "a", .put "c" 3,
      .getMut "c" (· + 10), .remove "b", .contains "c"]
    let small := (Slab.empty 1).run ops
    let large := (Slab.empty 2).run ops
    ((2 : Nat) = 0 ∨ (1 : Nat) ≠ 0 ∧ 1 ≤ 2) ∧ (∀ op ∈ ops, ¬op.Resizes) ∧
      List.Forall₂ Answer.FoundBy small.1 large.1 ∧
      small.2.entries.Sublist large.2.entries ∧
      small.2.peek? "c" = some 13 ∧ large.2.peek? "c" = some 13 := by
  intro ops small large
  have ordered : (2 : Nat) = 0 ∨ (1 : Nat) ≠ 0 ∧ 1 ≤ 2 := by decide
  have fixed : ∀ op ∈ ops, ¬op.Resizes := by
    simp [ops, Op.Resizes]
  obtain ⟨found, -, kept, sub⟩ := finds_of_larger ordered fixed
  have shows := ((Shows.empty 1 : (Slab.empty 1 : Slab String Nat).Shows _).run ops).shows
  have here : small.2.peek? "c" = some 13 := (shows.peek "c").2.trans (by decide)
  exact ⟨ordered, fixed, found, sub, here, kept "c" 13 here⟩

end Slab

end Scrollback
