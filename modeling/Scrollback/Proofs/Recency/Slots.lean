/-
A slab never leaks a slot.

Every slot holds a resident or is free, and is free once (`Slab.Holds.slots_perm`), so that there
are as many slots as entries and free slots together.  An operation adds a slot only if none is
free; then there have never been so many entries before (`Slab.Shows.slots_step`).  By induction
on the run there are just as many slots as there have been entries at most since the slab was new
or last cleared (`Slab.slots_accounted`), and a bounded slab has no more of them than it may keep
entries, whatever goes through it.
-/
import Scrollback.Proofs.Recency.Refinement

namespace Scrollback.Slab

open Recency (Op Answer)

/-! ### Occupied and free slots -/

namespace Holds

variable {κ α : Type} [DecidableEq κ] [Hashable κ] {s : Slab κ α} {rs : List (Resident κ α)}

/-- The slots of the residents and the free ones are all slots, each once. -/
theorem slots_perm (h : Holds s rs) :
    (slotsOf rs ++ s.free).Perm (List.range s.slots.size) := by
  have occupied : ∀ i, i ∈ slotsOf rs ↔ (s.cell? i).isSome := fun i =>
    ⟨h.chain.linked.isSome_of_mem, h.stocked.occupied i⟩
  have apart : (slotsOf rs ++ s.free).Nodup := by
    refine List.nodup_append.mpr ⟨h.chain.nodup, h.stocked.nodup, fun i hi j hj same => ?_⟩
    subst same
    -- a free slot is vacant, and that of a resident is not
    have vacant := ((h.stocked.free i).mp hj).2
    simp [occupied, vacant] at hi
  rw [List.perm_ext_iff_of_nodup apart List.nodup_range]
  intro i
  rw [List.mem_append, occupied, h.stocked.free, List.mem_range]
  rcases cell : s.cell? i with - | c
  · simp
  · simp [lt_of_cell? cell]

theorem slots_eq (h : Holds s rs) : s.slots.size = s.size + s.free.length := by
  have lengths := h.slots_perm.length_eq
  rw [List.length_append, List.length_range, slotsOf, List.length_map] at lengths
  rw [h.size_eq, lengths]

end Holds

/-- A slot is vacant if it is there and holds nothing. -/
theorem vacant_iff {κ α : Type} [BEq κ] [Hashable κ] {s : Slab κ α} {i : Nat} :
    s.slots[i]? = some none ↔ i < s.slots.size ∧ s.cell? i = none := by
  rw [cell?]
  rcases slot : s.slots[i]? with - | c
  · have beyond := Array.getElem?_eq_none_iff.mp slot
    simp [Nat.not_lt.mpr beyond]
  · obtain ⟨inside, -⟩ := Array.getElem?_eq_some_iff.mp slot
    simp [inside]

/-! ### Adding slots -/

section

variable {κ α : Type} [BEq κ] [Hashable κ] {s s' s'' : Slab κ α}

/-- There are as many slots as before, or there are more and none of them is free. -/
def Extends (s s' : Slab κ α) : Prop :=
  s'.slots.size = s.slots.size ∨ s.slots.size < s'.slots.size ∧ s'.free = []

theorem slots_release (s : Slab κ α) (i : Nat) : (s.release i).2.slots.size = s.slots.size := by
  rw [release]
  split
  · rfl
  · exact Array.size_setIfInBounds ..

theorem slots_dropLast (s : Slab κ α) : s.dropLast.2.slots.size = s.slots.size := by
  rw [dropLast]
  split
  · rfl
  · next i _ =>
    have released := (slots_release (s.unlink i) i).trans (relinked_unlink s i).size
    split
    · next answer =>
      rw [answer] at released
      exact released
    · next answer =>
      rw [answer] at released
      exact released

theorem slots_remove (s : Slab κ α) (k : κ) : (s.remove k).2.slots.size = s.slots.size := by
  rw [remove]
  split
  · rfl
  · exact (slots_release _ _).trans (relinked_unlink { s with index := s.index.erase k } _).size

theorem slots_shrink (capacity fuel : Nat) (s : Slab κ α) :
    (shrink capacity fuel s).2.slots.size = s.slots.size := by
  induction fuel generalizing s with
  | zero => rfl
  | succ fuel ih =>
    have dropped := slots_dropLast s
    rw [shrink]
    split
    · split
      · next answer =>
        rw [answer] at dropped
        exact dropped
      · next answer =>
        rw [answer] at dropped
        exact (ih _).trans dropped
    · rfl

theorem slots_resize (s : Slab κ α) (capacity : Nat) :
    (s.resize capacity).2.slots.size = s.slots.size := by
  rw [resize]
  split
  · rfl
  · exact slots_shrink capacity _ _

theorem slots_modify (s : Slab κ α) (k : κ) (f : α → α) :
    (s.modify k f).2.slots.size = s.slots.size := by
  rw [modify]
  split
  · rfl
  · next i _ => exact ((relinked_promote s i).trans (relinked_modifyCell _ i _)).size

theorem slots_get (s : Slab κ α) (k : κ) : (s.get k).2.slots.size = s.slots.size := by
  rw [get]
  split
  · rfl
  · next i _ => exact (relinked_promote s i).size

/-- A free slot is taken if there is one. -/
theorem extends_occupy (s : Slab κ α) (c : Cell κ α) : Extends s (s.occupy c).2 := by
  rw [occupy]
  split
  · exact .inl (Array.size_setIfInBounds ..)
  · next none_free =>
    refine .inr ⟨?_, none_free⟩
    show s.slots.size < (s.slots.push _).size
    rw [Array.size_push]
    exact Nat.lt_succ_self _

theorem Extends.relinked (h : Extends s s') (hl : Relinked s' s'') : Extends s s'' := by
  rwa [Extends, hl.size, hl.free]

theorem extends_put (s : Slab κ α) (k : κ) (v : α) : Extends s (s.put k v).2 := by
  rw [put]
  split
  · next i _ =>
    exact .inl ((relinked_modifyCell s i _).trans (relinked_promote _ i)).size
  · -- making room adds no slot, and neither does chaining the new entry
    have room : (if s.isFull then s.dropLast else (none, s)).2.slots.size = s.slots.size := by
      split
      · exact slots_dropLast s
      · rfl
    generalize (if s.isFull then s.dropLast else (none, s)) = made at room ⊢
    obtain ⟨out, s₁⟩ := made
    have placed := extends_occupy s₁ ⟨k, v, none, none⟩
    dsimp only
    generalize s₁.occupy ⟨k, v, none, none⟩ = found at placed ⊢
    obtain ⟨i, s₂⟩ := found
    rw [Extends, room] at placed
    have entered : Extends s { s₂ with index := s₂.index.insert k i } := placed
    exact entered.relinked (relinked_pushFront _ i)

/-- Slots are taken away only when everything is forgotten, and added only when none is free. -/
theorem extends_step (s : Slab κ α) {op : Op κ α} (kept : op ≠ .clear) :
    Extends s (s.step op).2 := by
  cases op with
  | put k v => exact extends_put s k v
  | get k => exact .inl (slots_get s k)
  | getMut k f => exact .inl (slots_modify s k f)
  | peek k => exact .inl rfl
  | contains k => exact .inl rfl
  | remove k => exact .inl (slots_remove s k)
  | popLru => exact .inl (slots_dropLast s)
  | resize capacity => exact .inl (slots_resize s capacity)
  | clear => exact absurd rfl kept
  | iter => exact .inl rfl

end

/-! ### Runs -/

section

variable {κ α : Type} [BEq κ] [Hashable κ]

theorem run_append (s : Slab κ α) (ops ops' : List (Op κ α)) :
    (s.run (ops ++ ops')).2 = ((s.run ops).2.run ops').2 := by
  induction ops generalizing s with
  | nil => rfl
  | cons op ops ih => exact ih (s.step op).2

/-- The numbers of entries that a run has met since it began, or since everything was forgotten
if that has happened. -/
def sizesSince (s : Slab κ α) (ops : List (Op κ α)) : Set Nat :=
  {n | ∃ old recent, ops = old ++ recent ∧ Op.clear ∉ recent ∧ n = (s.run old).2.size}

end

variable {κ α : Type} [DecidableEq κ] [Hashable κ] {s : Slab κ α} {r : Recency κ α}

/-- After an operation there are slots for all the entries, and no more than before otherwise. -/
theorem Shows.slots_step (h : s.Shows r) {op : Op κ α} (kept : op ≠ .clear) :
    (s.step op).2.slots.size = max s.slots.size (s.step op).2.size := by
  obtain ⟨rs, holds, -⟩ := (h.step op).shows
  -- if slots have been added then all are occupied, and else there were enough
  have all := holds.slots_eq
  rcases extends_step s kept with same | ⟨more, none_free⟩
  · omega
  · rw [none_free, List.length_nil] at all
    omega

theorem Shows.capacity (h : s.Shows r) : s.capacity = r.capacity := by
  obtain ⟨rs, -, rfl⟩ := h
  rfl

/-- A bounded slab keeps to its bound. -/
theorem Shows.size_le (h : s.Shows r) (sound : r.Sound) (bounded : s.capacity ≠ 0) :
    s.size ≤ s.capacity := by
  rw [h.capacity] at bounded ⊢
  exact h.size ▸ sound.bounded bounded

/-! ### The most entries there have been -/

variable {capacity : Nat} {ops : List (Op κ α)}

theorem sizesSince_clear (s : Slab κ α) (ops : List (Op κ α)) :
    s.sizesSince (ops ++ [.clear]) = {0} := by
  ext n
  constructor
  · rintro ⟨old, recent, split, kept, rfl⟩
    rcases List.eq_nil_or_concat recent with rfl | ⟨init, op, rfl⟩
    · rw [List.append_nil] at split
      rw [← split, run_append]
      exact Std.HashMap.size_empty
    · -- the last operation has forgotten everything, so none is more recent
      rw [List.concat_eq_append, ← List.append_assoc] at split
      obtain ⟨-, same⟩ := List.append_inj' split rfl
      obtain rfl := List.singleton_inj.mp same
      simp at kept
  · rintro rfl
    refine ⟨ops ++ [.clear], [], (List.append_nil _).symm, List.not_mem_nil, ?_⟩
    rw [run_append]
    exact Std.HashMap.size_empty.symm

theorem sizesSince_step (s : Slab κ α) (ops : List (Op κ α)) {op : Op κ α} (kept : op ≠ .clear) :
    s.sizesSince (ops ++ [op]) = insert (s.run (ops ++ [op])).2.size (s.sizesSince ops) := by
  ext n
  constructor
  · rintro ⟨old, recent, split, unforgotten, rfl⟩
    rcases List.eq_nil_or_concat recent with rfl | ⟨init, op', rfl⟩
    · rw [List.append_nil] at split
      exact .inl (by rw [split])
    · rw [List.concat_eq_append, ← List.append_assoc] at split
      obtain ⟨split, -⟩ := List.append_inj' split rfl
      refine .inr ⟨old, init, split, fun mem => unforgotten ?_, rfl⟩
      rw [List.concat_eq_append]
      exact List.mem_append_left _ mem
  · rintro (rfl | ⟨old, recent, rfl, unforgotten, rfl⟩)
    · exact ⟨ops ++ [op], [], (List.append_nil _).symm, List.not_mem_nil, rfl⟩
    · refine ⟨old, recent ++ [op], List.append_assoc .., fun mem => ?_, rfl⟩
      rcases List.mem_append.mp mem with mem | mem
      · exact unforgotten mem
      · exact kept (List.mem_singleton.mp mem).symm

/-- There are as many slots as there have been entries at most. -/
theorem isGreatest_sizesSince (capacity : Nat) (ops : List (Op κ α)) :
    IsGreatest ((empty capacity).sizesSince ops) ((empty capacity).run ops).2.slots.size := by
  -- by the last operation, as what counts as recent ends with it
  induction ops using List.reverseRecOn with
  | nil =>
    refine ⟨⟨[], [], rfl, List.not_mem_nil, Std.HashMap.size_empty.symm⟩, ?_⟩
    rintro _ ⟨old, recent, split, -, rfl⟩
    obtain ⟨rfl, -⟩ := List.nil_eq_append_iff.mp split
    exact Nat.le_of_eq Std.HashMap.size_empty
  | append_singleton ops op ih =>
    rcases eq_or_ne op .clear with rfl | kept
    · rw [sizesSince_clear, run_append]
      exact isGreatest_singleton
    · have shows := ((Shows.empty capacity).run ops).shows
      rw [sizesSince_step _ _ kept, run_append]
      show IsGreatest _ (((empty capacity).run ops).2.step op).2.slots.size
      rw [shows.slots_step kept, max_comm]
      exact ih.insert _

/-- No slot of a slab is lost, and none is given out twice.  Whatever is asked of a new one, every
slot holds an entry or is free; those that are free are just the vacant ones, each once; there are
just as many slots as there have been entries at most since everything was last forgotten; and if
no capacity on the way has been more than `c`, and none was without bound, there are no more than
`c` of them. -/
theorem slots_accounted (capacity : Nat) (ops : List (Op κ α)) :
    let s := ((empty capacity : Slab κ α).run ops).2
    Strict.run (empty capacity) ops = some ((empty capacity).run ops) ∧
      s.slots.size = s.size + s.free.length ∧
      s.free.Nodup ∧ (∀ i, i ∈ s.free ↔ s.slots[i]? = some none) ∧
      IsGreatest ((empty capacity).sizesSince ops) s.slots.size ∧
      ∀ c, (∀ old, old <+: ops → ((empty capacity : Slab κ α).run old).2.capacity ≠ 0 ∧
        ((empty capacity : Slab κ α).run old).2.capacity ≤ c) → s.slots.size ≤ c := by
  intro s
  have follows := (Shows.empty capacity).run ops
  have greatest := isGreatest_sizesSince capacity ops
  obtain ⟨rs, holds, -⟩ := follows.shows
  refine ⟨follows.succeeds, holds.slots_eq, holds.stocked.nodup, fun i => ?_, greatest,
    fun c bounded => ?_⟩
  · rw [holds.stocked.free, vacant_iff]
  · -- at the time with the most entries they kept to the capacity of that time
    obtain ⟨old, recent, rfl, -, most⟩ := greatest.1
    obtain ⟨bound, small⟩ := bounded old (List.prefix_append old recent)
    rw [most]
    have sound : (Recency.empty capacity : Recency κ α).Sound := .empty capacity
    exact (((Shows.empty capacity).run old).shows.size_le (sound.run old) bound).trans small

/-- Five keys go through two slots: a slot that falls vacant is taken by the next entry, and the
slot of an entry that is driven out by the one that drives it out. -/
theorem slots_accounted_reused :
    let ops : List (Op String Nat) := [.put "a" 1, .put "b" 2, .remove "a", .put "c" 3,
      .put "d" 4, .resize 1, .put "e" 5]
    (∀ old, old <+: ops → ((empty 2 : Slab String Nat).run old).2.capacity ≠ 0 ∧
      ((empty 2 : Slab String Nat).run old).2.capacity ≤ 2) ∧
      ((empty 2 : Slab String Nat).run ops).2.slots.size = 2 := by
  intro ops
  have shows : ∀ old : List (Op String Nat),
      ((empty 2).run old).2.Shows ((Recency.empty 2).run old).2 := fun old =>
    ((Shows.empty 2).run old).shows
  have bounded : ∀ old, old <+: ops → ((empty 2 : Slab String Nat).run old).2.capacity ≠ 0 ∧
      ((empty 2 : Slab String Nat).run old).2.capacity ≤ 2 := by
    intro old hold
    have cases : ∀ old ∈ ops.inits, ((Recency.empty 2).run old).2.capacity ≠ 0 ∧
        ((Recency.empty 2).run old).2.capacity ≤ 2 := by
      decide
    rw [(shows old).capacity]
    exact cases old ((List.mem_inits _ _).mpr hold)
  obtain ⟨-, -, -, -, greatest, most⟩ := slots_accounted 2 ops
  refine ⟨bounded, Nat.le_antisymm (most 2 bounded) (greatest.2 ?_)⟩
  -- there have been two entries at the same time
  refine ⟨[.put "a" 1, .put "b" 2], _, rfl, ?_, ?_⟩
  · simp
  · rw [(shows _).size]
    rfl

end Scrollback.Slab
