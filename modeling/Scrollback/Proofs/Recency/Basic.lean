/-
What each operation does to the list of entries, where the key is known and where it is not.  From
that: the keys stay distinct and a bounded memory stays within its bound (`Recency.Sound`), and no
operation brings in an entry but the one that is put (`Recency.mem_put`).
-/
import Mathlib
import Scrollback.Recency.Basic

namespace Scrollback.Recency

variable {κ α : Type} {r : Recency κ α} {k : κ} {v : α} {pre post : List (κ × α)}

/-- The keys are distinct, and a bounded memory keeps to its bound. -/
structure Sound (r : Recency κ α) : Prop where
  nodup : r.keys.Nodup
  bounded : r.capacity ≠ 0 → r.size ≤ r.capacity

/-- A known key stands somewhere among the entries. -/
theorem exists_split (h : k ∈ r.keys) : ∃ pre v post, r.entries = pre ++ (k, v) :: post := by
  obtain ⟨⟨k', v⟩, he, rfl⟩ := List.mem_map.mp h
  obtain ⟨pre, post, split⟩ := List.append_of_mem he
  exact ⟨pre, v, post, split⟩

/-- Distinct keys: an entry's key is not found before or after it. -/
theorem not_mem_of_split (nodup : r.keys.Nodup) (split : r.entries = pre ++ (k, v) :: post) :
    k ∉ pre.map Prod.fst ∧ k ∉ post.map Prod.fst := by
  rw [keys, split, List.map_append, List.map_cons, List.nodup_middle, List.nodup_cons,
    List.mem_append, not_or] at nodup
  exact nodup.1

theorem isFull_eq_true : r.isFull = true ↔ r.capacity ≠ 0 ∧ r.capacity ≤ r.size := by
  rw [isFull, Bool.and_eq_true, bne_iff_ne, decide_eq_true_eq]

/-! ### Dropping entries and moving them -/

namespace Sound

theorem empty (capacity : Nat) : (Recency.empty capacity : Recency κ α).Sound :=
  ⟨List.nodup_nil, fun _ => Nat.zero_le _⟩

/-- Entries that are dropped leave a sound memory. -/
theorem sublist (h : r.Sound) {es : List (κ × α)} (sub : es.Sublist r.entries) :
    ({ r with entries := es } : Recency κ α).Sound :=
  ⟨h.nodup.sublist (sub.map Prod.fst), fun hc => sub.length_le.trans (h.bounded hc)⟩

/-- An entry that is moved to the front, its value changed or not, leaves a sound memory. -/
theorem moved (h : r.Sound) (split : r.entries = pre ++ (k, v) :: post) (v' : α) :
    ({ r with entries := (k, v') :: (pre ++ post) } : Recency κ α).Sound := by
  constructor
  · have nodup := h.nodup
    rw [keys, split, List.map_append, List.map_cons, List.nodup_middle] at nodup
    rwa [keys, List.map_cons, List.map_append]
  · intro hc
    have bounded := h.bounded hc
    rw [size, split] at bounded
    simp only [size, List.length_cons, List.length_append] at bounded ⊢
    omega

theorem dropLast (h : r.Sound) : r.dropLast.2.Sound :=
  h.sublist (List.dropLast_sublist _)

theorem resize (h : r.Sound) (capacity : Nat) : (r.resize capacity).2.Sound := by
  rw [Recency.resize]
  split
  · exact ⟨h.nodup, fun hc => absurd rfl hc⟩
  · refine ⟨h.nodup.sublist ((List.take_sublist _ _).map Prod.fst), fun _ => ?_⟩
    exact List.length_take_le capacity r.entries

end Sound

theorem mem_resize {e : κ × α} {capacity : Nat} (h : e ∈ (r.resize capacity).2.entries) :
    e ∈ r.entries := by
  rw [resize] at h
  split at h
  · exact h
  · exact List.mem_of_mem_take h

variable [DecidableEq κ]

/-! ### Looking up -/

theorem contains_eq_true : r.contains k = true ↔ k ∈ r.keys := by
  simp [contains, keys]

theorem mem_others {e : κ × α} : e ∈ r.others k ↔ e ∈ r.entries ∧ e.1 ≠ k := by
  rw [others, List.mem_filter, decide_eq_true_eq]

theorem filter_of_not_mem {es : List (κ × α)} (h : k ∉ es.map Prod.fst) :
    (es.filter fun e => e.1 ≠ k) = es := by
  rw [List.filter_eq_self]
  intro e he
  have other : e.1 ≠ k := by
    rintro rfl
    exact h (List.mem_map_of_mem he)
  exact decide_eq_true other

theorem others_of_not_mem (h : k ∉ r.keys) : r.others k = r.entries :=
  filter_of_not_mem h

theorem others_of_split (nodup : r.keys.Nodup) (split : r.entries = pre ++ (k, v) :: post) :
    r.others k = pre ++ post := by
  obtain ⟨before, after⟩ := not_mem_of_split nodup split
  rw [others, split, List.filter_append, List.filter_cons_of_neg (by simp),
    filter_of_not_mem before, filter_of_not_mem after]

theorem peek?_of_not_mem (h : k ∉ r.keys) : r.peek? k = none := by
  rw [peek?, List.lookup_eq_none_iff]
  intro e he
  have other : k ≠ e.1 := by
    rintro rfl
    exact h (List.mem_map_of_mem he)
  simpa using other

theorem peek?_of_split (nodup : r.keys.Nodup) (split : r.entries = pre ++ (k, v) :: post) :
    r.peek? k = some v := by
  obtain ⟨before, -⟩ := not_mem_of_split nodup split
  have missed : pre.lookup k = none := @peek?_of_not_mem κ α ⟨0, pre⟩ k _ before
  rw [peek?, split, List.lookup_append, missed]
  simp

/-- What is found is an entry. -/
theorem mem_of_peek? (h : r.peek? k = some v) : (k, v) ∈ r.entries := by
  obtain ⟨pre, post, split, -⟩ := List.lookup_eq_some_iff.mp h
  rw [split]
  simp

/-! ### Known and unknown keys -/

theorem put_of_split {v' : α} (nodup : r.keys.Nodup)
    (split : r.entries = pre ++ (k, v) :: post) :
    r.put k v' = (none, { r with entries := (k, v') :: (pre ++ post) }) := by
  have known : r.contains k = true := by
    rw [contains_eq_true, keys, split]
    simp
  rw [put, if_pos known, others_of_split nodup split]

/-- A new key drives out the last entry if the memory is full. -/
theorem put_of_not_mem (h : k ∉ r.keys) :
    r.put k v = if r.isFull then
      (r.entries.getLast?, { r with entries := (k, v) :: r.entries.dropLast })
      else (none, { r with entries := (k, v) :: r.entries }) := by
  have unknown : ¬r.contains k = true := by
    rwa [contains_eq_true]
  rw [put, if_neg unknown]
  by_cases full : r.isFull = true
  · rw [if_pos full, if_pos full]
    rfl
  · rw [if_neg full, if_neg full]

theorem modify_of_split {f : α → α} (nodup : r.keys.Nodup)
    (split : r.entries = pre ++ (k, v) :: post) :
    r.modify k f = (some (f v), { r with entries := (k, f v) :: (pre ++ post) }) := by
  rw [modify, peek?_of_split nodup split]
  show (some (f v), ({ r with entries := (k, f v) :: r.others k } : Recency κ α)) = _
  rw [others_of_split nodup split]

theorem modify_of_not_mem {f : α → α} (h : k ∉ r.keys) : r.modify k f = (none, r) := by
  rw [modify, peek?_of_not_mem h]

theorem remove_of_split (nodup : r.keys.Nodup) (split : r.entries = pre ++ (k, v) :: post) :
    r.remove k = (some v, { r with entries := pre ++ post }) := by
  rw [remove, peek?_of_split nodup split, others_of_split nodup split]

theorem remove_of_not_mem (h : k ∉ r.keys) : r.remove k = (none, r) := by
  rw [remove, peek?_of_not_mem h, others_of_not_mem h]

/-! ### Soundness -/

namespace Sound

theorem put (h : r.Sound) (k : κ) (v : α) : (r.put k v).2.Sound := by
  by_cases known : k ∈ r.keys
  · obtain ⟨pre, old, post, split⟩ := exists_split known
    rw [put_of_split h.nodup split]
    exact h.moved split v
  · rw [put_of_not_mem known]
    split
    · next full =>
      -- one entry goes and one comes
      have sub := (List.dropLast_sublist r.entries).map Prod.fst
      refine ⟨List.nodup_cons.mpr ⟨fun hk => known (sub.subset hk), h.nodup.sublist sub⟩, ?_⟩
      intro hc
      have bounded := h.bounded hc
      have pos : 0 < r.capacity := Nat.pos_of_ne_zero hc
      rw [isFull_eq_true] at full
      simp only [size, List.length_cons, List.length_dropLast] at bounded full ⊢
      omega
    · next room =>
      refine ⟨List.nodup_cons.mpr ⟨known, h.nodup⟩, fun hc => ?_⟩
      rw [isFull_eq_true, not_and, not_le] at room
      exact room hc

theorem modify (h : r.Sound) (k : κ) (f : α → α) : (r.modify k f).2.Sound := by
  by_cases known : k ∈ r.keys
  · obtain ⟨pre, v, post, split⟩ := exists_split known
    rw [modify_of_split h.nodup split]
    exact h.moved split (f v)
  · rw [modify_of_not_mem known]
    exact h

theorem remove (h : r.Sound) (k : κ) : (r.remove k).2.Sound :=
  h.sublist List.filter_sublist

end Sound

/-! ### Entries after an operation -/

/-- Only the entry that is put is new. -/
theorem mem_put {e : κ × α} (h : e ∈ (r.put k v).2.entries) :
    e = (k, v) ∨ e ∈ r.entries ∧ e.1 ≠ k := by
  rw [put] at h
  split at h
  · exact (List.mem_cons.mp h).imp_right mem_others.mp
  · next unknown =>
    have other : ∀ e ∈ r.entries, e.1 ≠ k := by
      rintro e he rfl
      exact unknown (contains_eq_true.mpr (List.mem_map_of_mem he))
    refine (List.mem_cons.mp h).imp_right fun h => ?_
    have old : e ∈ r.entries := by
      split at h
      · exact List.mem_of_mem_dropLast h
      · exact h
    exact ⟨old, other e old⟩

theorem mem_get {e : κ × α} (h : e ∈ (r.get k).2.entries) : e ∈ r.entries := by
  rw [get, modify] at h
  rcases hv : r.peek? k with - | v
  · rw [hv] at h
    exact h
  · rw [hv] at h
    rcases List.mem_cons.mp h with rfl | h
    · exact mem_of_peek? hv
    · exact (mem_others.mp h).1

theorem mem_of_get (h : (r.get k).1 = some v) : (k, v) ∈ r.entries := by
  rw [get, modify] at h
  rcases hv : r.peek? k with - | w
  · simp [hv] at h
  · obtain rfl : w = v := by simpa [hv] using h
    exact mem_of_peek? hv

/-- What has been put is found. -/
theorem get_put_self (r : Recency κ α) (k : κ) (v : α) :
    ((r.put k v).2.get k).1 = some v := by
  have front : ∃ rest, (r.put k v).2.entries = (k, v) :: rest := by
    rw [put]
    split
    · exact ⟨_, rfl⟩
    · exact ⟨_, rfl⟩
  obtain ⟨rest, front⟩ := front
  have found : (r.put k v).2.peek? k = some v := by
    rw [peek?, front, List.lookup_cons_self]
  rw [get, modify, found]
  rfl

end Scrollback.Recency
