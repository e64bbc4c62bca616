/-
A slab behaves as the list of entries that it stands for.

A slab `Shows` a memory if the entries of its residents, in the order of the chain, are the entries
of the memory.  Each operation of the slab `Follows` the operation of the list: it reaches only into
slots that hold entries, gives the same answer, and leaves a slab that shows the list that the other
leaves.  By induction so does every run (`Slab.Shows.run`), and with what is known of the lists a
slab of any history is accounted for (`Slab.run_refines`).
-/
import Scrollback.Proofs.Recency.Basic
import Scrollback.Proofs.Recency.Residents

namespace Scrollback

/-! ### Runs -/

namespace Recency

/-- What can be asked of a memory. -/
inductive Op (κ α : Type) where
  | put (k : κ) (v : α)
  | get (k : κ)
  | getMut (k : κ) (f : α → α)
  | peek (k : κ)
  | contains (k : κ)
  | remove (k : κ)
  | popLru
  | resize (capacity : Nat)
  | clear
  | iter

/-- What it answers. -/
inductive Answer (κ α : Type) where
  | nothing
  | value (v : Option α)
  | found (b : Bool)
  | entry (e : Option (κ × α))
  | entries (es : List (κ × α))
  /-- The entries one after another, each with the count of those after it. -/
  | listing (es : List ((κ × α) × Nat))

variable {κ α : Type}

/-- The entries with the count of those after each. -/
def countdown : List (κ × α) → List ((κ × α) × Nat)
  | [] => []
  | e :: rest => (e, rest.length) :: countdown rest

variable [DecidableEq κ]

def step (r : Recency κ α) : Op κ α → Answer κ α × Recency κ α
  | .put k v => (.entry (r.put k v).1, (r.put k v).2)
  | .get k => (.value (r.get k).1, (r.get k).2)
  | .getMut k f => (.value (r.modify k f).1, (r.modify k f).2)
  | .peek k => (.value (r.peek? k), r)
  | .contains k => (.found (r.contains k), r)
  | .remove k => (.value (r.remove k).1, (r.remove k).2)
  | .popLru => (.entry r.dropLast.1, r.dropLast.2)
  | .resize capacity => (.entries (r.resize capacity).1, (r.resize capacity).2)
  | .clear => (.nothing, r.clear)
  | .iter => (.listing (countdown r.entries), r)

/-- One operation after another: the answers, and the state at the end. -/
def run (r : Recency κ α) : List (Op κ α) → List (Answer κ α) × Recency κ α
  | [] => ([], r)
  | op :: ops =>
    ((r.step op).1 :: ((r.step op).2.run ops).1, ((r.step op).2.run ops).2)

theorem Sound.step {r : Recency κ α} (h : r.Sound) (op : Op κ α) : (r.step op).2.Sound := by
  cases op with
  | put k v => exact h.put k v
  | get k => exact h.modify k id
  | getMut k f => exact h.modify k f
  | peek k => exact h
  | contains k => exact h
  | remove k => exact h.remove k
  | popLru => exact h.dropLast
  | resize capacity => exact h.resize capacity
  | clear => exact Sound.empty r.capacity
  | iter => exact h

theorem Sound.run {r : Recency κ α} (h : r.Sound) (ops : List (Op κ α)) :
    (r.run ops).2.Sound := by
  induction ops generalizing r with
  | nil => exact h
  | cons op ops ih => exact ih (h.step op)

end Recency

namespace Slab

open Recency (Op Answer countdown)

section

variable {κ α : Type} [BEq κ] [Hashable κ]

/-- The entries at a cursor and after it, at most `fuel` of them, each with the count after it. -/
def trail (s : Slab κ α) : Nat → Cursor → List ((κ × α) × Nat)
  | 0, _ => []
  | fuel + 1, c =>
    match s.next? c with
    | none => []
    | some (e, c) => (e, c.remaining) :: trail s fuel c

def step (s : Slab κ α) : Op κ α → Answer κ α × Slab κ α
  | .put k v => (.entry (s.put k v).1, (s.put k v).2)
  | .get k => (.value (s.get k).1, (s.get k).2)
  | .getMut k f => (.value (s.modify k f).1, (s.modify k f).2)
  | .peek k => (.value (s.peek? k), s)
  | .contains k => (.found (s.contains k), s)
  | .remove k => (.value (s.remove k).1, (s.remove k).2)
  | .popLru => (.entry s.dropLast.1, s.dropLast.2)
  | .resize capacity => (.entries (s.resize capacity).1, (s.resize capacity).2)
  | .clear => (.nothing, s.clear)
  | .iter => (.listing (s.trail (s.size + 1) s.cursor), s)

/-- One operation after another: the answers, and the state at the end. -/
def run (s : Slab κ α) : List (Op κ α) → List (Answer κ α) × Slab κ α
  | [] => ([], s)
  | op :: ops =>
    ((s.step op).1 :: ((s.step op).2.run ops).1, ((s.step op).2.run ops).2)

namespace Strict

def step (s : Slab κ α) : Op κ α → Option (Answer κ α × Slab κ α)
  | .put k v => (put s k v).map fun (e, s) => (.entry e, s)
  | .get k => (get s k).map fun (v, s) => (.value v, s)
  | .getMut k f => (modify s k f).map fun (v, s) => (.value v, s)
  | .peek k => (peek s k).map fun v => (.value v, s)
  | .contains k => some (.found (s.contains k), s)
  | .remove k => (remove s k).map fun (v, s) => (.value v, s)
  | .popLru => (dropLast s).map fun (e, s) => (.entry e, s)
  | .resize capacity => (resize s capacity).map fun (es, s) => (.entries es, s)
  | .clear => some (.nothing, s.clear)
  | .iter => (trail s (s.size + 1) s.cursor).map fun es => (.listing es, s)

/-- One operation after another, if none of them fails. -/
def run (s : Slab κ α) : List (Op κ α) → Option (List (Answer κ α) × Slab κ α)
  | [] => some ([], s)
  | op :: ops => do
    let (answer, s) ← step s op
    let (answers, s) ← run s ops
    some (answer :: answers, s)

end Strict

end

variable {κ α : Type} [DecidableEq κ] [Hashable κ] {s : Slab κ α} {r : Recency κ α}
  {rs pre post : List (Resident κ α)} {q : Resident κ α} {k : κ} {v : α}

/-- The memory that some residents of a slab are. -/
def memory (s : Slab κ α) (rs : List (Resident κ α)) : Recency κ α :=
  ⟨s.capacity, rs.map Resident.pair⟩

/-- The slab stands for a memory. -/
def Shows (s : Slab κ α) (r : Recency κ α) : Prop :=
  ∃ rs, Holds s rs ∧ r = s.memory rs

/-- An operation on a slab does not fail, and answers and ends as an operation on a list does. -/
structure Follows {β : Type} (strict : Option (β × Slab κ α)) (plain : β × Slab κ α)
    (model : β × Recency κ α) : Prop where
  succeeds : strict = some plain
  answer : plain.1 = model.1
  shows : plain.2.Shows model.2

/-- What an operation gives is handed on as an answer. -/
theorem Follows.answered {β : Type} {strict : Option (β × Slab κ α)} {plain : β × Slab κ α}
    {model : β × Recency κ α} (h : Follows strict plain model) (f : β → Answer κ α) :
    Follows (strict.map fun (b, s) => (f b, s)) (f plain.1, plain.2) (f model.1, model.2) where
  succeeds := by
    rw [h.succeeds]
    rfl
  answer := congrArg f h.answer
  shows := h.shows

/-! ### Residents and entries -/

theorem keys_memory (s : Slab κ α) (rs : List (Resident κ α)) :
    (s.memory rs).keys = rs.map Resident.key := by
  rw [memory, Recency.keys, List.map_map]
  rfl

theorem entries_split (s : Slab κ α) :
    (s.memory (pre ++ q :: post)).entries =
      pre.map Resident.pair ++ (q.key, q.value) :: post.map Resident.pair := by
  rw [memory, List.map_append, List.map_cons]
  rfl

namespace Holds

theorem nodup_keys (h : Holds s rs) : (s.memory rs).keys.Nodup := by
  rw [keys_memory]
  exact h.keys_nodup

theorem not_mem_keys (h : Holds s rs) (hk : s.index[k]? = none) : k ∉ (s.memory rs).keys := by
  rw [keys_memory]
  exact h.not_mem_of_none hk

theorem isFull_eq (h : Holds s rs) : s.isFull = (s.memory rs).isFull := by
  rw [isFull, Recency.isFull, h.size_eq, Recency.size, memory, List.length_map]

/-- Room for a new key: the last resident goes if the slab is full. -/
theorem makeRoom (h : Holds s rs) (absent : k ∉ (s.memory rs).keys) (v : α) :
    ∃ out s' rs', Strict.makeRoom s = some (out, s') ∧
      (if s.isFull then s.dropLast else (none, s)) = (out, s') ∧ Holds s' rs' ∧
      k ∉ rs'.map Resident.key ∧ s'.capacity = s.capacity ∧
      (s.memory rs).put k v =
        (out, { s.memory rs with entries := (k, v) :: rs'.map Resident.pair }) := by
  have model := @Recency.put_of_not_mem κ α (s.memory rs) k v _ absent
  rw [keys_memory] at absent
  rw [← h.isFull_eq] at model
  rw [Strict.makeRoom]
  by_cases full : s.isFull = true
  · rw [if_pos full] at model ⊢
    rw [if_pos full]
    rcases List.eq_nil_or_concat rs with rfl | ⟨init, q, rfl⟩
    · -- an empty slab is never full, but there is nothing to drop from it either
      obtain ⟨strict, plain⟩ := h.dropLast_nil
      exact ⟨none, s, [], strict, plain, h, absent, rfl, model⟩
    · rw [List.concat_eq_append] at h absent model
      obtain ⟨s', strict, plain, holds, capacity⟩ := h.dropLast
      refine ⟨_, s', init, strict, plain, holds, fun hk => absurd ?_ absent, capacity, ?_⟩
      · rw [List.map_append]
        exact List.mem_append_left _ hk
      · rw [List.concat_eq_append, model]
        simp [memory]
  · rw [if_neg full] at model ⊢
    rw [if_neg full]
    exact ⟨none, s, rs, rfl, rfl, h, absent, rfl, model⟩

end Holds

/-! ### Operations -/

namespace Shows

theorem put (h : s.Shows r) (k : κ) (v : α) :
    Follows (Strict.put s k v) (s.put k v) (r.put k v) := by
  obtain ⟨rs, holds, rfl⟩ := h
  rcases found : s.index[k]? with - | i
  · -- a new key: room is made first, then the entry moves in
    obtain ⟨out, s₁, rs₁, strict₁, plain₁, holds₁, fresh, capacity₁, model⟩ :=
      holds.makeRoom (holds.not_mem_keys found) v
    obtain ⟨i, s₂, s₃, strict₂, plain₂, strict₃, plain₃, holds₃, capacity₃⟩ :=
      holds₁.enter fresh v
    have strict : Strict.put s k v = some (out, s₃) := by
      simp only [Strict.put, found, strict₁, strict₂, strict₃, Option.bind_eq_bind,
        Option.bind_some]
    have plain : s.put k v = (out, s₃) := by
      simp only [Slab.put, found, plain₁, plain₂, plain₃]
    rw [strict, plain, model]
    refine ⟨rfl, rfl, _, holds₃, ?_⟩
    show Recency.mk s.capacity _ = s₃.memory _
    rw [memory, capacity₃, capacity₁]
    rfl
  · -- a known key: its resident gets the value and comes to the front
    obtain ⟨pre, q, post, rfl, rfl, rfl⟩ := holds.exists_split found
    obtain ⟨modified, holds₁⟩ := holds.modifyValue fun _ => v
    have promoted := holds₁.chain.strict_promote
    have strict : Strict.put s q.key v = some (none,
        (s.modifyCell q.slot fun c => { c with value := v }).promote q.slot) := by
      simp only [Strict.put, found, modified, promoted, Option.bind_eq_bind, Option.bind_some]
    have plain : s.put q.key v = (none,
        (s.modifyCell q.slot fun c => { c with value := v }).promote q.slot) := by
      simp only [Slab.put, found]
    rw [strict, plain, Recency.put_of_split holds.nodup_keys (entries_split s)]
    refine ⟨rfl, rfl, _, holds₁.promote, ?_⟩
    show Recency.mk s.capacity _ = Slab.memory (Slab.promote _ _) _
    rw [memory, (relinked_promote _ _).capacity, List.map_cons, List.map_append]
    rfl

theorem modify (h : s.Shows r) (k : κ) (f : α → α) :
    Follows (Strict.modify s k f) (s.modify k f) (r.modify k f) := by
  obtain ⟨rs, holds, rfl⟩ := h
  rcases found : s.index[k]? with - | i
  · have strict : Strict.modify s k f = some (none, s) := by
      simp only [Strict.modify, found]
    have plain : s.modify k f = (none, s) := by
      simp only [Slab.modify, found]
    rw [strict, plain, Recency.modify_of_not_mem (holds.not_mem_keys found)]
    exact ⟨rfl, rfl, rs, holds, rfl⟩
  · obtain ⟨pre, q, post, rfl, rfl, rfl⟩ := holds.exists_split found
    -- the value is changed only when the resident stands in front of all others
    obtain ⟨modified, holds₁⟩ := @Holds.modifyValue _ _ _ _ _ [] _ _ holds.promote f
    have promoted := holds.chain.strict_promote
    have cell := @Chain.cell_eq _ _ [] _ _ _ _ _ holds₁.chain
    have strict : Strict.modify s q.key f = some (some (f q.value),
        (s.promote q.slot).modifyCell q.slot fun c => { c with value := f c.value }) := by
      simp only [Strict.modify, found, promoted, modified, cell, Option.bind_eq_bind,
        Option.bind_some]
      rfl
    have plain : s.modify q.key f = (some (f q.value),
        (s.promote q.slot).modifyCell q.slot fun c => { c with value := f c.value }) := by
      simp only [Slab.modify, found, cell]
      rfl
    rw [strict, plain, Recency.modify_of_split holds.nodup_keys (entries_split s)]
    refine ⟨rfl, rfl, _, holds₁, ?_⟩
    show Recency.mk s.capacity _ = Slab.memory (Slab.modifyCell _ _ _) _
    rw [memory, (relinked_modifyCell _ _ _).capacity, (relinked_promote _ _).capacity,
      List.nil_append, List.map_cons, List.map_append]
    rfl

theorem get (h : s.Shows r) (k : κ) : Follows (Strict.get s k) (s.get k) (r.get k) := by
  obtain ⟨rs, holds, rfl⟩ := h
  rw [Recency.get]
  rcases found : s.index[k]? with - | i
  · have strict : Strict.get s k = some (none, s) := by
      simp only [Strict.get, found]
    have plain : s.get k = (none, s) := by
      simp only [Slab.get, found]
    rw [strict, plain, Recency.modify_of_not_mem (holds.not_mem_keys found)]
    exact ⟨rfl, rfl, rs, holds, rfl⟩
  · obtain ⟨pre, q, post, rfl, rfl, rfl⟩ := holds.exists_split found
    have holds₁ := holds.promote
    have promoted := holds.chain.strict_promote
    have cell := @Chain.cell_eq _ _ [] _ _ _ _ _ holds₁.chain
    have strict : Strict.get s q.key = some (some q.value, s.promote q.slot) := by
      simp only [Strict.get, found, promoted, cell, Option.bind_eq_bind, Option.bind_some]
      rfl
    have plain : s.get q.key = (some q.value, s.promote q.slot) := by
      simp only [Slab.get, found, cell]
      rfl
    rw [strict, plain, Recency.modify_of_split holds.nodup_keys (entries_split s)]
    refine ⟨rfl, rfl, _, holds₁, ?_⟩
    show Recency.mk s.capacity _ = Slab.memory (Slab.promote _ _) _
    rw [memory, (relinked_promote _ _).capacity, List.map_cons, List.map_append]
    rfl

theorem peek (h : s.Shows r) (k : κ) :
    Strict.peek s k = some (s.peek? k) ∧ s.peek? k = r.peek? k := by
  obtain ⟨rs, holds, rfl⟩ := h
  rcases found : s.index[k]? with - | i
  · rw [Recency.peek?_of_not_mem (holds.not_mem_keys found)]
    simp only [Strict.peek, peek?, found, Option.bind_none, and_self]
  · obtain ⟨pre, q, post, rfl, rfl, rfl⟩ := holds.exists_split found
    rw [Recency.peek?_of_split holds.nodup_keys (entries_split s)]
    have cell := holds.chain.cell_eq
    simp only [Strict.peek, peek?, found, cell, Option.bind_some, Option.map_some]
    exact ⟨trivial, rfl⟩

theorem contains (h : s.Shows r) (k : κ) : s.contains k = r.contains k := by
  obtain ⟨rs, holds, rfl⟩ := h
  rw [Bool.eq_iff_iff, Recency.contains_eq_true, keys_memory, Slab.contains,
    Std.HashMap.contains_iff_mem, holds.indexed.mem_iff, List.map_map]
  rfl

theorem remove (h : s.Shows r) (k : κ) :
    Follows (Strict.remove s k) (s.remove k) (r.remove k) := by
  obtain ⟨rs, holds, rfl⟩ := h
  rcases found : s.index[k]? with - | i
  · have strict : Strict.remove s k = some (none, s) := by
      simp only [Strict.remove, found]
    have plain : s.remove k = (none, s) := by
      simp only [Slab.remove, found]
    rw [strict, plain, Recency.remove_of_not_mem (holds.not_mem_keys found)]
    exact ⟨rfl, rfl, rs, holds, rfl⟩
  · obtain ⟨pre, q, post, rfl, rfl, rfl⟩ := holds.exists_split found
    obtain ⟨s', strict, plain, holds', capacity⟩ := holds.remove
    rw [strict, plain, Recency.remove_of_split holds.nodup_keys (entries_split s)]
    refine ⟨rfl, rfl, _, holds', ?_⟩
    show Recency.mk s.capacity _ = s'.memory _
    rw [memory, capacity, List.map_append]

theorem dropLast (h : s.Shows r) :
    Follows (Strict.dropLast s) s.dropLast r.dropLast := by
  obtain ⟨rs, holds, rfl⟩ := h
  rcases List.eq_nil_or_concat rs with rfl | ⟨init, q, rfl⟩
  · obtain ⟨strict, plain⟩ := holds.dropLast_nil
    rw [strict, plain]
    exact ⟨rfl, rfl, [], holds, rfl⟩
  · rw [List.concat_eq_append] at holds ⊢
    obtain ⟨s', strict, plain, holds', capacity⟩ := holds.dropLast
    have last : (s.memory (init ++ [q])).dropLast =
        (some q.pair, ⟨s.capacity, init.map Resident.pair⟩) := by
      simp [Recency.dropLast, memory]
    rw [strict, plain, last]
    refine ⟨rfl, rfl, _, holds', ?_⟩
    show Recency.mk s.capacity _ = s'.memory _
    rw [memory, capacity]

/-- As many residents are dropped as there are too many, the last one first. -/
theorem shrink_residents {capacity fuel : Nat} (h : Holds s rs) (enough : rs.length ≤ capacity + fuel) :
    ∃ s', Strict.shrink capacity fuel s =
        some (((rs.map Resident.pair).drop capacity).reverse, s') ∧
      Slab.shrink capacity fuel s = (((rs.map Resident.pair).drop capacity).reverse, s') ∧
      Holds s' (rs.take capacity) ∧ s'.capacity = s.capacity := by
  have none_left : ∀ {rs : List (Resident κ α)}, rs.length ≤ capacity →
      ((rs.map Resident.pair).drop capacity).reverse = [] ∧ rs.take capacity = rs := by
    intro rs small
    rw [List.drop_eq_nil_of_le (by rwa [List.length_map]), List.take_of_length_le small]
    exact ⟨rfl, rfl⟩
  induction fuel generalizing s rs with
  | zero =>
    obtain ⟨dropped, kept⟩ := none_left enough
    rw [dropped, kept]
    exact ⟨s, rfl, rfl, h, rfl⟩
  | succ fuel ih =>
    rw [Strict.shrink, Slab.shrink, h.size_eq]
    by_cases tooMany : capacity < rs.length
    · rw [if_pos tooMany, if_pos tooMany]
      rcases List.eq_nil_or_concat rs with rfl | ⟨init, q, rfl⟩
      · exact absurd tooMany (Nat.not_lt_zero _)
      · rw [List.concat_eq_append] at h tooMany enough ⊢
        rw [List.length_append, List.length_singleton] at tooMany enough
        obtain ⟨s₁, strict₁, plain₁, holds₁, capacity₁⟩ := h.dropLast
        obtain ⟨s₂, strict₂, plain₂, holds₂, capacity₂⟩ := ih holds₁ (by omega)
        -- the last resident is the first of those that are dropped
        have dropped : (((init ++ [q]).map Resident.pair).drop capacity).reverse =
            q.pair :: ((init.map Resident.pair).drop capacity).reverse := by
          rw [List.map_append, List.drop_append_of_le_length (by rw [List.length_map]; omega),
            List.reverse_append]
          rfl
        rw [dropped, List.take_append_of_le_length (by omega)]
        refine ⟨s₂, ?_, ?_, holds₂, capacity₂.trans capacity₁⟩
        · simp only [strict₁, strict₂, Option.bind_eq_bind, Option.bind_some]
        · simp only [plain₁, plain₂]
    · obtain ⟨dropped, kept⟩ := none_left (Nat.not_lt.mp tooMany)
      rw [if_neg tooMany, if_neg tooMany, dropped, kept]
      exact ⟨s, rfl, rfl, h, rfl⟩

theorem resize (h : s.Shows r) (capacity : Nat) :
    Follows (Strict.resize s capacity) (s.resize capacity) (r.resize capacity) := by
  obtain ⟨rs, holds, rfl⟩ := h
  have holds₁ : Holds { s with capacity := capacity } rs :=
    ⟨holds.chain.congr (fun _ _ => rfl) rfl rfl,
      ⟨holds.stocked.occupied, holds.stocked.nodup, holds.stocked.free⟩, holds.indexed⟩
  rw [Strict.resize, Slab.resize, Recency.resize]
  by_cases unbounded : capacity = 0
  · rw [if_pos unbounded, if_pos unbounded, if_pos unbounded]
    subst unbounded
    exact ⟨rfl, rfl, rs, holds₁, rfl⟩
  · rw [if_neg unbounded, if_neg unbounded, if_neg unbounded]
    have size : rs.length ≤ capacity + s.size := by
      rw [holds.size_eq]
      omega
    obtain ⟨s', strict, plain, holds', capacity'⟩ := shrink_residents holds₁ size
    show Follows _ (Slab.shrink capacity s.size _) _
    rw [strict, plain]
    refine ⟨rfl, rfl, _, holds', ?_⟩
    show Recency.mk capacity ((rs.map Resident.pair).take capacity) = s'.memory _
    rw [memory, capacity', List.map_take]

/-! ### Walking along the chain -/

/-- The cursor in front of the residents that are still to come. -/
def before (post : List (Resident κ α)) : Cursor := ⟨first post none, post.length⟩

theorem next?_resident (h : Holds s (pre ++ q :: post)) :
    s.next? (before (q :: post)) = some (q.pair, before post) := by
  have cell : s.cell? q.slot = some (q.cell (last none pre) (first post none)) := h.chain.cell_eq
  simp only [next?, before, first, Option.bind_some, cell, Option.map_some]
  rfl

theorem next_resident (h : Holds s (pre ++ q :: post)) :
    Strict.next s (before (q :: post)) = some (some (q.pair, before post)) := by
  have cell : s.cell? q.slot = some (q.cell (last none pre) (first post none)) := h.chain.cell_eq
  simp only [Strict.next, before, first, cell, List.length_cons, Nat.add_one_ne_zero, if_false,
    Option.bind_eq_bind, Option.bind_some]
  rfl

/-- The walk ends behind the last resident, and counts down to zero on its way. -/
theorem trail_residents {fuel : Nat} (h : Holds s (pre ++ post)) (enough : post.length < fuel) :
    Strict.trail s fuel (before post) = some (countdown (post.map Resident.pair)) ∧
      s.trail fuel (before post) = countdown (post.map Resident.pair) := by
  induction post generalizing pre fuel with
  | nil =>
    obtain ⟨fuel, rfl⟩ := Nat.exists_eq_succ_of_ne_zero (Nat.ne_of_gt enough)
    exact ⟨rfl, rfl⟩
  | cons q post ih =>
    obtain ⟨fuel, rfl⟩ := Nat.exists_eq_succ_of_ne_zero (Nat.ne_zero_of_lt enough)
    have rest := @ih (pre ++ [q]) fuel (by simpa using h) (by simpa using enough)
    have count : (before post).remaining = (post.map Resident.pair).length := by
      rw [List.length_map]
      rfl
    rw [List.map_cons, countdown, ← count]
    constructor
    · simp only [Strict.trail, next_resident h, rest.1, Option.bind_eq_bind, Option.bind_some]
    · simp only [Slab.trail, next?_resident h, rest.2]

theorem walk_residents {fuel : Nat} (h : Holds s (pre ++ post)) (enough : post.length ≤ fuel) :
    s.walk fuel (before post) = post.map Resident.pair := by
  induction post generalizing pre fuel with
  | nil => cases fuel <;> rfl
  | cons q post ih =>
    obtain ⟨fuel, rfl⟩ := Nat.exists_eq_succ_of_ne_zero (Nat.ne_zero_of_lt enough)
    have rest := @ih (pre ++ [q]) fuel (by simpa using h) (by simpa using enough)
    simp only [walk, next?_resident h, rest, List.map_cons]

theorem cursor_eq (h : Holds s rs) : s.cursor = before rs := by
  rw [cursor, before, h.chain.head, h.size_eq]

theorem iter (h : s.Shows r) :
    Strict.trail s (s.size + 1) s.cursor = some (countdown r.entries) ∧
      s.trail (s.size + 1) s.cursor = countdown r.entries := by
  obtain ⟨rs, holds, rfl⟩ := h
  rw [cursor_eq holds]
  exact @trail_residents _ _ _ _ _ [] _ _ holds (by rw [holds.size_eq]; omega)

theorem entries (h : s.Shows r) : s.entries = r.entries := by
  obtain ⟨rs, holds, rfl⟩ := h
  rw [Slab.entries, cursor_eq holds]
  exact @walk_residents _ _ _ _ _ [] _ _ holds (by rw [holds.size_eq])

theorem size (h : s.Shows r) : s.size = r.size := by
  obtain ⟨rs, holds, rfl⟩ := h
  rw [holds.size_eq, Recency.size, memory, List.length_map]

/-! ### Runs -/

theorem empty (capacity : Nat) : (Slab.empty capacity : Slab κ α).Shows (.empty capacity) :=
  ⟨[], holds_empty capacity, rfl⟩

/-- Whatever is asked, the slab answers and ends as the list does, and does not fail. -/
theorem step (h : s.Shows r) (op : Op κ α) :
    Follows (Strict.step s op) (s.step op) (r.step op) := by
  cases op with
  | put k v => exact (h.put k v).answered .entry
  | get k => exact (h.get k).answered .value
  | getMut k f => exact (h.modify k f).answered .value
  | peek k =>
    obtain ⟨strict, answer⟩ := h.peek k
    exact ⟨by rw [Strict.step, strict]; rfl, congrArg Answer.value answer, h⟩
  | contains k => exact ⟨rfl, congrArg Answer.found (h.contains k), h⟩
  | remove k => exact (h.remove k).answered .value
  | popLru => exact h.dropLast.answered .entry
  | resize capacity => exact (h.resize capacity).answered .entries
  | clear =>
    obtain ⟨rs, holds, rfl⟩ := h
    exact ⟨rfl, rfl, empty s.capacity⟩
  | iter =>
    obtain ⟨strict, plain⟩ := h.iter
    exact ⟨by rw [Strict.step, strict, ← plain]; rfl, congrArg Answer.listing plain, h⟩

theorem run (h : s.Shows r) (ops : List (Op κ α)) :
    Follows (Strict.run s ops) (s.run ops) (r.run ops) := by
  induction ops generalizing s r with
  | nil => exact ⟨rfl, rfl, h⟩
  | cons op ops ih =>
    have first := h.step op
    have rest := ih first.shows
    refine ⟨?_, ?_, rest.shows⟩
    · simp only [Strict.run, first.succeeds, rest.succeeds, Option.bind_eq_bind, Option.bind_some]
      rfl
    · rw [Slab.run, Recency.run, first.answer, rest.answer]

end Shows

/-- A slab behaves as a list with distinct keys does.  Whatever is asked of a new one, no slot is
reached for that is not there or holds no entry; the answers are those of the list; at the end the
slab holds the entries of the list, and no more of them than it may keep. -/
theorem run_refines (capacity : Nat) (ops : List (Op κ α)) :
    let plain := (Slab.empty capacity : Slab κ α).run ops
    let model := (Recency.empty capacity : Recency κ α).run ops
    Strict.run (Slab.empty capacity) ops = some plain ∧ plain.1 = model.1 ∧
      plain.2.entries = model.2.entries ∧ plain.2.capacity = model.2.capacity ∧
      model.2.keys.Nodup ∧ plain.2.size = model.2.entries.length ∧
      (plain.2.capacity ≠ 0 → plain.2.size ≤ plain.2.capacity) := by
  intro plain model
  have follows := (Shows.empty capacity).run ops
  have sound := (Recency.Sound.empty capacity : (Recency.empty capacity : Recency κ α).Sound).run ops
  have capacities : plain.2.capacity = model.2.capacity := by
    obtain ⟨rs, -, memory⟩ := follows.shows
    exact (congrArg Recency.capacity memory).symm
  refine ⟨follows.succeeds, follows.answer, follows.shows.entries, capacities, sound.nodup,
    follows.shows.size, fun bounded => ?_⟩
  rw [capacities] at bounded ⊢
  exact follows.shows.size ▸ sound.bounded bounded

end Slab

end Scrollback
