/-
What a slab holds.  A slab `Holds` some residents if they are chained in its slots in this order,
the index finds exactly their keys, and the free slots are exactly the vacant ones, each once.
Two things are done to a slot as a whole: a resident that has been taken out of the chain leaves
it (`Chain.release`), and a new one moves into a vacant slot (`Chain.occupy`).
-/
import Scrollback.Proofs.Recency.Strict

namespace Scrollback.Slab

variable {κ α : Type} [DecidableEq κ] [Hashable κ]

/-! ### The index -/

/-- The key of a resident and the slot under which the index has it. -/
def Resident.label (r : Resident κ α) : κ × Nat := (r.key, r.slot)

/-- The index is that of some keys and their slots. -/
structure Indexed (index : Std.HashMap κ Nat) (labels : List (κ × Nat)) : Prop where
  nodup : (labels.map Prod.fst).Nodup
  find : ∀ k i, index[k]? = some i ↔ (k, i) ∈ labels
  size : index.size = labels.length

namespace Indexed

variable {index : Std.HashMap κ Nat} {labels labels' pre post : List (κ × Nat)} {k : κ} {i : Nat}

theorem empty : Indexed (∅ : Std.HashMap κ Nat) [] :=
  ⟨List.nodup_nil, by simp, Std.HashMap.size_empty⟩

/-- The order of the labels is no matter. -/
theorem perm (h : Indexed index labels) (hp : labels.Perm labels') : Indexed index labels' :=
  ⟨(hp.map Prod.fst).nodup_iff.mp h.nodup, fun k i => (h.find k i).trans hp.mem_iff,
    h.size.trans hp.length_eq⟩

theorem mem_iff (h : Indexed index labels) : k ∈ index ↔ k ∈ labels.map Prod.fst := by
  rw [Std.HashMap.mem_iff_isSome_getElem?, Option.isSome_iff_exists, List.mem_map]
  constructor
  · rintro ⟨i, hi⟩
    exact ⟨(k, i), (h.find k i).mp hi, rfl⟩
  · rintro ⟨⟨k, i⟩, hi, rfl⟩
    exact ⟨i, (h.find k i).mpr hi⟩

theorem insert (h : Indexed index labels) (fresh : k ∉ labels.map Prod.fst) :
    Indexed (index.insert k i) ((k, i) :: labels) := by
  refine ⟨List.nodup_cons.mpr ⟨fresh, h.nodup⟩, fun a j => ?_, ?_⟩
  · rw [Std.HashMap.getElem?_insert, List.mem_cons, Prod.mk.injEq]
    by_cases ha : k = a
    · subst ha
      have absent : (k, j) ∉ labels := fun hj => fresh (List.mem_map.mpr ⟨_, hj, rfl⟩)
      simp [absent, eq_comm]
    · rw [if_neg (by simpa using ha), h.find]
      simp [Ne.symm ha]
  · have absent : ¬k ∈ index := by
      rwa [h.mem_iff]
    rw [Std.HashMap.size_insert, if_neg absent, h.size, List.length_cons]

theorem erase (h : Indexed index (pre ++ (k, i) :: post)) :
    Indexed (index.erase k) (pre ++ post) := by
  have h := h.perm List.perm_middle
  obtain ⟨fresh, nodup⟩ := List.nodup_cons.mp h.nodup
  refine ⟨nodup, fun a j => ?_, ?_⟩
  · rw [Std.HashMap.getElem?_erase]
    by_cases ha : k = a
    · subst ha
      have absent : (k, j) ∉ pre ++ post := fun hj => fresh (List.mem_map.mpr ⟨_, hj, rfl⟩)
      simp only [beq_self_eq_true, if_true, reduceCtorEq, absent]
    · rw [if_neg (by simpa using ha), h.find, List.mem_cons, Prod.mk.injEq]
      simp [Ne.symm ha]
  · have present : k ∈ index := by
      rw [h.mem_iff]
      exact List.mem_cons_self
    rw [Std.HashMap.size_erase, if_pos present, h.size, List.length_cons]
    rfl

end Indexed

/-! ### Slots -/

/-- Only the given slots hold entries; the free slots are the vacant ones, each once. -/
structure Stocked (s : Slab κ α) (slots : List Nat) : Prop where
  occupied : ∀ i, (s.cell? i).isSome → i ∈ slots
  nodup : s.free.Nodup
  free : ∀ i, i ∈ s.free ↔ i < s.slots.size ∧ s.cell? i = none

variable {s s' : Slab κ α} {rs pre post : List (Resident κ α)} {r : Resident κ α} {i : Nat}

theorem Stocked.mono {slots slots' : List Nat} (h : Stocked s slots)
    (sub : ∀ i ∈ slots, i ∈ slots') : Stocked s slots' :=
  ⟨fun i hi => sub i (h.occupied i hi), h.nodup, h.free⟩

theorem Stocked.relinked {slots : List Nat} (h : Stocked s slots) (hl : Relinked s s') :
    Stocked s' slots := by
  refine ⟨fun i hi => h.occupied i (hl.occupied i ▸ hi), hl.free ▸ h.nodup, fun i => ?_⟩
  have vacant : s'.cell? i = none ↔ s.cell? i = none := by
    rw [← Option.not_isSome_iff_eq_none, ← Option.not_isSome_iff_eq_none, hl.occupied]
  rw [hl.free, hl.size, vacant, h.free]

/-- An entry lies within the slots. -/
theorem lt_of_cell? {c : Cell κ α} (h : s.cell? i = some c) : i < s.slots.size := by
  by_contra beyond
  rw [cell?, Array.getElem?_eq_none (Nat.not_lt.mp beyond)] at h
  cases h

theorem cell?_set (s : Slab κ α) (free : List Nat) (c : Option (Cell κ α)) {i : Nat}
    (hi : i < s.slots.size) (j : Nat) :
    cell? { s with slots := s.slots.set! i c, free := free } j =
      if j = i then c else s.cell? j := by
  simp only [cell?, Array.set!_eq_setIfInBounds, Array.getElem?_setIfInBounds]
  by_cases h : i = j
  · subst h
    rw [if_pos rfl, if_pos hi, if_pos rfl]
    rfl
  · rw [if_neg h, if_neg (Ne.symm h)]

theorem cell?_push (s : Slab κ α) (c : Option (Cell κ α)) (j : Nat) :
    cell? { s with slots := s.slots.push c } j =
      if j = s.slots.size then c else s.cell? j := by
  simp only [cell?, Array.getElem?_push]
  split
  · rfl
  · rfl

/-- Only the cells and the two ends matter for the chain. -/
theorem Chain.congr (h : Chain s rs) (cells : ∀ i ∈ slotsOf rs, s'.cell? i = s.cell? i)
    (head : s'.head = s.head) (tail : s'.tail = s.tail) : Chain s' rs :=
  ⟨h.linked.congr cells, head.trans h.head, tail.trans h.tail, h.nodup⟩

/-- An entry outside the chain leaves its slot. -/
theorem Chain.release (h : Chain s rs) (stocked : Stocked s (r.slot :: slotsOf rs))
    (fresh : r.slot ∉ slotsOf rs) {a b : Option Nat} (hr : s.cell? r.slot = some (r.cell a b)) :
    ∃ s', Strict.release s r.slot = some (some r.pair, s') ∧
      s.release r.slot = (some r.pair, s') ∧ Chain s' rs ∧ Stocked s' (slotsOf rs) ∧
      s'.index = s.index ∧ s'.capacity = s.capacity := by
  have bound := lt_of_cell? hr
  have cells := cell?_set s (r.slot :: s.free) none bound
  have released : s.release r.slot = (some r.pair,
      { s with slots := s.slots.set! r.slot none, free := r.slot :: s.free }) := by
    rw [Slab.release, hr]
    rfl
  refine ⟨_, ?_, released, h.congr (fun i hi => ?_) rfl rfl, ⟨fun i hi => ?_, ?_, fun i => ?_⟩,
    rfl, rfl⟩
  · rw [Strict.release, if_pos bound, released]
  · -- no resident lives in the slot that is given up
    rw [cells, if_neg]
    rintro rfl
    exact fresh hi
  · rw [cells] at hi
    split at hi
    · cases hi
    · next other => exact (List.mem_cons.mp (stocked.occupied i hi)).resolve_left other
  · -- a slot that was occupied was not free before
    refine List.nodup_cons.mpr ⟨fun hfree => ?_, stocked.nodup⟩
    have := ((stocked.free _).mp hfree).2
    rw [hr] at this
    cases this
  · rw [cells, List.mem_cons, stocked.free]
    show _ ↔ i < (s.slots.set! r.slot none).size ∧ _
    rw [Array.set!_eq_setIfInBounds, Array.size_setIfInBounds]
    by_cases hi : i = r.slot
    · subst hi
      simp [bound]
    · simp [hi]

theorem strict_occupy (h : ∀ i ∈ s.free, i < s.slots.size) (c : Cell κ α) :
    Strict.occupy s c = some (s.occupy c) := by
  rw [Strict.occupy]
  split
  · next i free hfree => exact if_pos (h i (hfree ▸ List.mem_cons_self))
  · rfl

/-- A new entry moves into a slot that holds none. -/
theorem Chain.occupy (h : Chain s rs) (stocked : Stocked s (slotsOf rs)) (k : κ) (v : α) :
    ∃ i s', Strict.occupy s ⟨k, v, none, none⟩ = some (i, s') ∧
      s.occupy ⟨k, v, none, none⟩ = (i, s') ∧ Chain s' rs ∧ i ∉ slotsOf rs ∧
      s'.cell? i = some ⟨k, v, none, none⟩ ∧ Stocked s' (i :: slotsOf rs) ∧
      s'.index = s.index ∧ s'.capacity = s.capacity := by
  have vacant : ∀ i, s.cell? i = none → i ∉ slotsOf rs := by
    intro i hi hmem
    have := h.linked.isSome_of_mem hmem
    rw [hi] at this
    cases this
  have strict := strict_occupy (fun i hi => ((stocked.free i).mp hi).1) ⟨k, v, none, none⟩
  rcases hfree : s.free with - | ⟨i, free⟩
  · -- a new slot behind all others
    have cells := cell?_push s (some ⟨k, v, none, none⟩)
    have beyond : s.cell? s.slots.size = none := by
      rw [cell?, Array.getElem?_eq_none (Nat.le_refl _)]
      rfl
    have occupied : s.occupy ⟨k, v, none, none⟩ =
        (s.slots.size, { s with slots := s.slots.push (some ⟨k, v, none, none⟩) }) := by
      rw [Slab.occupy, hfree]
    refine ⟨_, _, occupied ▸ strict, occupied, h.congr (fun i hi => ?_) rfl rfl, vacant _ beyond,
      ?_, ⟨fun i hi => ?_, stocked.nodup, fun i => ?_⟩, rfl, rfl⟩
    · rw [cells, if_neg]
      rintro rfl
      exact vacant _ beyond hi
    · rw [cells, if_pos rfl]
    · rw [cells] at hi
      split at hi
      · next same => exact same ▸ List.mem_cons_self
      · exact List.mem_cons_of_mem _ (stocked.occupied i hi)
    · rw [cells]
      show i ∈ s.free ↔ i < (s.slots.push _).size ∧ _
      rw [stocked.free, Array.size_push]
      by_cases hi : i = s.slots.size
      · subst hi
        simp
      · rw [if_neg hi]
        exact and_congr_left fun _ => by omega
  · -- the slot that fell vacant last
    have mem : i ∈ s.free := hfree ▸ List.mem_cons_self
    obtain ⟨bound, empty⟩ := (stocked.free i).mp mem
    have cells := cell?_set s free (some ⟨k, v, none, none⟩) bound
    have nodup := stocked.nodup
    rw [hfree, List.nodup_cons] at nodup
    have occupied : s.occupy ⟨k, v, none, none⟩ =
        (i, { s with slots := s.slots.set! i (some ⟨k, v, none, none⟩), free := free }) := by
      rw [Slab.occupy, hfree]
    refine ⟨_, _, occupied ▸ strict, occupied, h.congr (fun j hj => ?_) rfl rfl, vacant i empty,
      ?_, ⟨fun j hj => ?_, nodup.2, fun j => ?_⟩, rfl, rfl⟩
    · rw [cells, if_neg]
      rintro rfl
      exact vacant _ empty hj
    · rw [cells, if_pos rfl]
    · rw [cells] at hj
      split at hj
      · next same => exact same ▸ List.mem_cons_self
      · exact List.mem_cons_of_mem _ (stocked.occupied j hj)
    · have hj := stocked.free j
      rw [hfree, List.mem_cons] at hj
      rw [cells]
      show j ∈ free ↔ j < (s.slots.set! i _).size ∧ _
      rw [Array.set!_eq_setIfInBounds, Array.size_setIfInBounds]
      by_cases same : j = i
      · subst same
        simp [nodup.1]
      · rw [if_neg same, ← hj, or_iff_right same]

/-! ### Residents -/

/-- The slab holds these residents and nothing else, in this order. -/
structure Holds (s : Slab κ α) (rs : List (Resident κ α)) : Prop where
  chain : Chain s rs
  stocked : Stocked s (slotsOf rs)
  indexed : Indexed s.index (rs.map Resident.label)

theorem holds_empty (capacity : Nat) : Holds (empty capacity : Slab κ α) [] :=
  ⟨⟨trivial, rfl, rfl, List.nodup_nil⟩, ⟨by simp [cell?, empty], List.nodup_nil, by simp [empty]⟩,
    Indexed.empty⟩

namespace Holds

/-- The index has the slot of each resident. -/
theorem find (h : Holds s (pre ++ r :: post)) : s.index[r.key]? = some r.slot := by
  rw [h.indexed.find]
  exact List.mem_map_of_mem (by simp)

/-- A key that the index finds is that of a resident. -/
theorem exists_split (h : Holds s rs) {k : κ} (hi : s.index[k]? = some i) :
    ∃ pre r post, rs = pre ++ r :: post ∧ r.key = k ∧ r.slot = i := by
  rw [h.indexed.find] at hi
  obtain ⟨r, hr, label⟩ := List.mem_map.mp hi
  obtain ⟨pre, post, split⟩ := List.append_of_mem hr
  obtain ⟨key, slot⟩ := Prod.mk.inj label
  exact ⟨pre, r, post, split, key, slot⟩

theorem keys_nodup (h : Holds s rs) : (rs.map Resident.key).Nodup := by
  have nodup := h.indexed.nodup
  rwa [List.map_map] at nodup

/-- A key that the index does not find is that of no resident. -/
theorem not_mem_of_none (h : Holds s rs) {k : κ} (hk : s.index[k]? = none) :
    k ∉ rs.map Resident.key := by
  intro hmem
  obtain ⟨r, hr, rfl⟩ := List.mem_map.mp hmem
  obtain ⟨pre, post, rfl⟩ := List.append_of_mem hr
  rw [h.find] at hk
  cases hk

theorem size_eq (h : Holds s rs) : s.size = rs.length := by
  rw [size, h.indexed.size, List.length_map]

/-- A resident leaves: first the chain, then its slot. -/
theorem leave (chain : Chain s (pre ++ r :: post))
    (stocked : Stocked s (slotsOf (pre ++ r :: post))) :
    ∃ s', Strict.unlink s r.slot = some (s.unlink r.slot) ∧
      Strict.release (s.unlink r.slot) r.slot = some (some r.pair, s') ∧
      (s.unlink r.slot).release r.slot = (some r.pair, s') ∧
      Chain s' (pre ++ post) ∧ Stocked s' (slotsOf (pre ++ post)) ∧
      s'.index = s.index ∧ s'.capacity = s.capacity := by
  obtain ⟨unlinked, cell⟩ := chain.unlink
  have relinked := relinked_unlink s r.slot
  -- between the two steps the slot is occupied by nobody in the chain
  have slots : ∀ i ∈ slotsOf (pre ++ r :: post), i ∈ r.slot :: slotsOf (pre ++ post) := by
    intro i hi
    simpa [slotsOf, or_left_comm] using hi
  obtain ⟨s', strict, plain, chain', stocked', index, capacity⟩ :=
    unlinked.release ((stocked.relinked relinked).mono slots) (nodup_pieces chain.nodup).2 cell
  exact ⟨s', chain.strict_unlink, strict, plain, chain', stocked', index.trans relinked.index,
    capacity.trans relinked.capacity⟩

/-- The last resident is dropped. -/
theorem dropLast (h : Holds s (pre ++ [r])) :
    ∃ s', Strict.dropLast s = some (some r.pair, s') ∧ s.dropLast = (some r.pair, s') ∧
      Holds s' pre ∧ s'.capacity = s.capacity := by
  obtain ⟨s', unlinked, strict, plain, chain, stocked, index, capacity⟩ :=
    leave h.chain h.stocked
  have tail : s.tail = some r.slot := by
    rw [h.chain.tail, last_append]
    rfl
  have indexed := h.indexed
  rw [List.map_append] at indexed
  have erased := indexed.erase
  rw [List.map_nil, List.append_nil, ← index] at erased
  rw [List.append_nil] at chain stocked
  refine ⟨{ s' with index := s'.index.erase r.key }, ?_, ?_,
    ⟨chain.congr (fun _ _ => rfl) rfl rfl, ⟨stocked.occupied, stocked.nodup, stocked.free⟩,
      erased⟩, capacity⟩
  · rw [Strict.dropLast, tail]
    show (Strict.unlink s r.slot >>= fun s => Strict.release s r.slot >>= _) = _
    rw [unlinked]
    show (Strict.release (s.unlink r.slot) r.slot >>= _) = _
    rw [strict]
    rfl
  · simp only [Slab.dropLast, tail, plain]
    rfl

theorem dropLast_nil (h : Holds s []) :
    Strict.dropLast s = some (none, s) ∧ s.dropLast = (none, s) := by
  have tail : s.tail = none := h.chain.tail
  rw [Strict.dropLast, Slab.dropLast, tail]
  exact ⟨rfl, rfl⟩

/-- The resident of a key leaves. -/
theorem remove (h : Holds s (pre ++ r :: post)) :
    ∃ s', Strict.remove s r.key = some (some r.value, s') ∧
      s.remove r.key = (some r.value, s') ∧ Holds s' (pre ++ post) ∧
      s'.capacity = s.capacity := by
  have chain : Chain { s with index := s.index.erase r.key } (pre ++ r :: post) :=
    h.chain.congr (fun _ _ => rfl) rfl rfl
  have stocked : Stocked { s with index := s.index.erase r.key } (slotsOf (pre ++ r :: post)) :=
    ⟨h.stocked.occupied, h.stocked.nodup, h.stocked.free⟩
  obtain ⟨s', unlinked, strict, plain, chain', stocked', index, capacity⟩ := leave chain stocked
  have indexed := h.indexed
  rw [List.map_append] at indexed
  have erased := indexed.erase
  rw [← List.map_append] at erased
  refine ⟨s', ?_, ?_, ⟨chain', stocked', index ▸ erased⟩, capacity⟩
  · rw [Strict.remove, h.find]
    show (Strict.unlink _ r.slot >>= fun s => Strict.release s r.slot >>= _) = _
    rw [unlinked]
    show (Strict.release _ r.slot >>= _) = _
    rw [strict]
    rfl
  · rw [Slab.remove, h.find]
    show (((Slab.unlink _ r.slot).release r.slot).1.map Prod.snd,
      ((Slab.unlink _ r.slot).release r.slot).2) = _
    rw [plain]
    rfl

/-- A resident comes to the front. -/
theorem promote (h : Holds s (pre ++ r :: post)) :
    Holds (s.promote r.slot) (r :: (pre ++ post)) := by
  have relinked := relinked_promote s r.slot
  refine ⟨h.chain.promote, (h.stocked.relinked relinked).mono fun i hi => ?_, ?_⟩
  · simpa [slotsOf, or_left_comm] using hi
  · rw [relinked.index]
    exact h.indexed.perm (List.perm_middle.map _)

/-- A resident's value is changed. -/
theorem modifyValue (h : Holds s (pre ++ r :: post)) (f : α → α) :
    Strict.modifyCell s r.slot (fun c => { c with value := f c.value }) =
        some (s.modifyCell r.slot fun c => { c with value := f c.value }) ∧
      Holds (s.modifyCell r.slot fun c => { c with value := f c.value })
        (pre ++ { r with value := f r.value } :: post) := by
  have relinked := relinked_modifyCell s r.slot fun c => { c with value := f c.value }
  refine ⟨strict_modifyCell ?_ _, h.chain.modifyValue f,
    (h.stocked.relinked relinked).mono fun i hi => ?_, ?_⟩
  · rw [h.chain.cell_eq, Option.isSome_some]
  · simpa [slotsOf] using hi
  · have indexed := h.indexed
    rw [List.map_append, List.map_cons] at indexed ⊢
    exact indexed

/-- A new resident moves in at the front. -/
theorem enter (h : Holds s rs) {k : κ} (fresh : k ∉ rs.map Resident.key) (v : α) :
    ∃ i s' s'', Strict.occupy s ⟨k, v, none, none⟩ = some (i, s') ∧
      s.occupy ⟨k, v, none, none⟩ = (i, s') ∧
      Strict.pushFront { s' with index := s'.index.insert k i } i = some s'' ∧
      pushFront { s' with index := s'.index.insert k i } i = s'' ∧
      Holds s'' (⟨i, k, v⟩ :: rs) ∧ s''.capacity = s.capacity := by
  obtain ⟨i, s', strict, plain, chain, free, cell, stocked, index, capacity⟩ :=
    h.chain.occupy h.stocked k v
  have chain' : Chain { s' with index := s'.index.insert k i } rs :=
    chain.congr (fun _ _ => rfl) rfl rfl
  have stocked' : Stocked { s' with index := s'.index.insert k i } (i :: slotsOf rs) :=
    ⟨stocked.occupied, stocked.nodup, stocked.free⟩
  have relinked := relinked_pushFront { s' with index := s'.index.insert k i } i
  have indexed : Indexed (s'.index.insert k i) ((k, i) :: rs.map Resident.label) := by
    rw [index]
    refine h.indexed.insert ?_
    rwa [List.map_map]
  have front := @Chain.pushFront κ α rs _ _ _ ⟨i, k, v⟩ none none chain' free cell
  refine ⟨i, s', _, strict, plain, chain'.strict_pushFront ?_, rfl,
    ⟨front, stocked'.relinked relinked, relinked.index ▸ indexed⟩,
    relinked.capacity.trans capacity⟩
  show (s'.cell? i).isSome
  rw [cell, Option.isSome_some]

end Holds

end Scrollback.Slab
