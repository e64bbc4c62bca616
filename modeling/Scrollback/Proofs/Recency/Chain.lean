/-
The chain of a slab.

A `Resident` is an entry together with the slot that it lies in.  `Linked cell newer rs older` says
that some residents are chained one after the other, with `newer` before the first and `older`
after the last of them.  A chain may be cut at any place (`linked_append`), and each of the pointer
operations changes what lies beyond one end of a piece and nothing else (`Linked.linkOlder`,
`Linked.linkNewer`).  So taking an entry out of the chain, putting one at its head and bringing one
to its head do to the list of residents just what their names say (`Chain.unlink`,
`Chain.pushFront`, `Chain.promote`).
-/
import Mathlib
import Scrollback.Recency.Slab

namespace Scrollback.Slab

/-- An entry and the slot that it lies in. -/
structure Resident (κ α : Type) where
  slot : Nat
  key : κ
  value : α

namespace Resident

variable {κ α : Type}

/-- The entry alone. -/
def pair (r : Resident κ α) : κ × α := (r.key, r.value)

/-- What lies in the slot, between two neighbours. -/
def cell (r : Resident κ α) (newer older : Option Nat) : Cell κ α :=
  ⟨r.key, r.value, newer, older⟩

end Resident

variable {κ α : Type}

/-- The slots of some residents. -/
def slotsOf (rs : List (Resident κ α)) : List Nat :=
  rs.map Resident.slot

/-- The slot of the first resident, or what lies beyond where there is none. -/
def first : List (Resident κ α) → Option Nat → Option Nat
  | [], beyond => beyond
  | r :: _, _ => some r.slot

/-- The slot of the last resident, or what lies before where there is none. -/
def last : Option Nat → List (Resident κ α) → Option Nat
  | before, [] => before
  | _, r :: rest => last (some r.slot) rest

@[simp] theorem slotsOf_append (pre post : List (Resident κ α)) :
    slotsOf (pre ++ post) = slotsOf pre ++ slotsOf post :=
  List.map_append

@[simp] theorem slotsOf_cons (r : Resident κ α) (rest : List (Resident κ α)) :
    slotsOf (r :: rest) = r.slot :: slotsOf rest := rfl

theorem first_append (pre post : List (Resident κ α)) (beyond : Option Nat) :
    first (pre ++ post) beyond = first pre (first post beyond) := by
  cases pre <;> rfl

theorem last_append (before : Option Nat) (pre post : List (Resident κ α)) :
    last before (pre ++ post) = last (last before pre) post := by
  induction pre generalizing before with
  | nil => rfl
  | cons r rest ih => exact ih _

/-- Around a resident there are other slots, each once. -/
theorem nodup_pieces {r : Resident κ α} {pre post : List (Resident κ α)}
    (h : (slotsOf (pre ++ r :: post)).Nodup) :
    (slotsOf (pre ++ post)).Nodup ∧ r.slot ∉ slotsOf (pre ++ post) := by
  rw [slotsOf_append, slotsOf_cons, List.nodup_middle, List.nodup_cons] at h
  rw [slotsOf_append]
  exact ⟨h.2, h.1⟩

/-! ### Linked pieces -/

/-- The cells of some residents point to each other in order, the first of them to `newer` and the
last of them to `older`. -/
def Linked (cell : Nat → Option (Cell κ α)) :
    Option Nat → List (Resident κ α) → Option Nat → Prop
  | _, [], _ => True
  | newer, r :: rest, older =>
    cell r.slot = some (r.cell newer (first rest older)) ∧ Linked cell (some r.slot) rest older

variable {cell cell' : Nat → Option (Cell κ α)} {newer older target : Option Nat}
  {rs pre post : List (Resident κ α)}

/-- A chain cut in two. -/
theorem linked_append :
    Linked cell newer (pre ++ post) older ↔
      Linked cell newer pre (first post older) ∧ Linked cell (last newer pre) post older := by
  induction pre generalizing newer with
  | nil => simp [Linked, last]
  | cons r rest ih =>
    rw [List.cons_append, Linked, Linked, last, ih, first_append, and_assoc]

/-- Only the cells of the residents matter. -/
theorem Linked.congr (h : Linked cell newer rs older)
    (same : ∀ i ∈ slotsOf rs, cell' i = cell i) : Linked cell' newer rs older := by
  induction rs generalizing newer with
  | nil => trivial
  | cons r rest ih =>
    obtain ⟨hr, hrest⟩ := h
    refine ⟨?_, ih hrest fun i hi => same i (List.mem_cons_of_mem _ hi)⟩
    rw [same r.slot List.mem_cons_self]
    exact hr

/-- Every resident lies in its slot. -/
theorem Linked.cell_of_mem (h : Linked cell newer rs older) {r : Resident κ α} (hr : r ∈ rs) :
    ∃ a b, cell r.slot = some (r.cell a b) := by
  induction rs generalizing newer with
  | nil => cases hr
  | cons q rest ih =>
    rcases List.mem_cons.mp hr with rfl | hr
    · exact ⟨_, _, h.1⟩
    · exact ih h.2 hr

section

variable [BEq κ] [Hashable κ] {s : Slab κ α} {i j : Nat}

/-! ### Changing one cell -/

theorem cell?_modifyCell (s : Slab κ α) (j : Nat) (f : Cell κ α → Cell κ α) (i : Nat) :
    (s.modifyCell j f).cell? i = if i = j then (s.cell? i).map f else s.cell? i := by
  simp only [cell?, modifyCell, Array.getElem?_modify]
  by_cases h : j = i
  · subst h
    rw [if_pos rfl, if_pos rfl]
    rcases s.slots[j]? with - | c
    · rfl
    · rfl
  · rw [if_neg h, if_neg (Ne.symm h)]

theorem cell?_modifyCell_ne (s : Slab κ α) (f : Cell κ α → Cell κ α) (h : i ≠ j) :
    (s.modifyCell j f).cell? i = s.cell? i := by
  rw [cell?_modifyCell, if_neg h]

theorem cell?_modifyCell_self {c : Cell κ α} (f : Cell κ α → Cell κ α) (h : s.cell? i = some c) :
    (s.modifyCell i f).cell? i = some (f c) := by
  rw [cell?_modifyCell, if_pos rfl, h, Option.map_some]

@[simp] theorem isSome_modifyCell (s : Slab κ α) (j : Nat) (f : Cell κ α → Cell κ α) (i : Nat) :
    ((s.modifyCell j f).cell? i).isSome = (s.cell? i).isSome := by
  rw [cell?_modifyCell]
  split
  · rw [Option.isSome_map]
  · rfl

@[simp] theorem size_modifyCell (s : Slab κ α) (j : Nat) (f : Cell κ α → Cell κ α) :
    (s.modifyCell j f).slots.size = s.slots.size := by
  simp [modifyCell]

/-! ### Changing one end of a piece -/

/-- What is left alone when links change. -/
structure Relinked (s s' : Slab κ α) : Prop where
  capacity : s'.capacity = s.capacity
  index : s'.index = s.index
  free : s'.free = s.free
  size : s'.slots.size = s.slots.size
  occupied : ∀ i, (s'.cell? i).isSome = (s.cell? i).isSome

theorem Relinked.refl (s : Slab κ α) : Relinked s s :=
  ⟨rfl, rfl, rfl, rfl, fun _ => rfl⟩

theorem Relinked.trans {s s' s'' : Slab κ α} (h : Relinked s s') (h' : Relinked s' s'') :
    Relinked s s'' :=
  ⟨h'.capacity.trans h.capacity, h'.index.trans h.index, h'.free.trans h.free,
    h'.size.trans h.size, fun i => (h'.occupied i).trans (h.occupied i)⟩

theorem relinked_modifyCell (s : Slab κ α) (i : Nat) (f : Cell κ α → Cell κ α) :
    Relinked s (s.modifyCell i f) :=
  ⟨rfl, rfl, rfl, size_modifyCell s i f, isSome_modifyCell s i f⟩

theorem relinked_linkOlder (s : Slab κ α) (newer target : Option Nat) :
    Relinked s (s.linkOlder newer target) := by
  cases newer with
  | none => exact ⟨rfl, rfl, rfl, rfl, fun _ => rfl⟩
  | some i => exact relinked_modifyCell s i _

theorem relinked_linkNewer (s : Slab κ α) (older target : Option Nat) :
    Relinked s (s.linkNewer older target) := by
  cases older with
  | none => exact ⟨rfl, rfl, rfl, rfl, fun _ => rfl⟩
  | some i => exact relinked_modifyCell s i _

@[simp] theorem tail_linkOlder (s : Slab κ α) (newer target : Option Nat) :
    (s.linkOlder newer target).tail = s.tail := by
  cases newer <;> rfl

@[simp] theorem head_linkNewer (s : Slab κ α) (older target : Option Nat) :
    (s.linkNewer older target).head = s.head := by
  cases older <;> rfl

theorem cell?_linkOlder (s : Slab κ α) (target : Option Nat) (hi : i ∉ slotsOf pre) :
    (s.linkOlder (last none pre) target).cell? i = s.cell? i := by
  rcases List.eq_nil_or_concat pre with rfl | ⟨init, r, rfl⟩
  · rfl
  · rw [List.concat_eq_append] at hi ⊢
    rw [last_append]
    refine cell?_modifyCell_ne s _ ?_
    rintro rfl
    simp at hi

theorem cell?_linkNewer (s : Slab κ α) (target : Option Nat) (hi : i ∉ slotsOf post) :
    (s.linkNewer (first post none) target).cell? i = s.cell? i := by
  cases post with
  | nil => rfl
  | cons r rest =>
    refine cell?_modifyCell_ne s _ ?_
    rintro rfl
    simp at hi

/-- The last of a piece at the head of the chain is given another neighbour. -/
theorem Linked.linkOlder (h : Linked s.cell? none pre older) (nodup : (slotsOf pre).Nodup) :
    Linked (s.linkOlder (last none pre) target).cell? none pre target := by
  rcases List.eq_nil_or_concat pre with rfl | ⟨init, r, rfl⟩
  · trivial
  · rw [List.concat_eq_append] at h nodup ⊢
    obtain ⟨hinit, hr, -⟩ := linked_append.mp h
    rw [last_append, linked_append]
    rw [slotsOf_append, List.nodup_append] at nodup
    refine ⟨hinit.congr fun i hi => ?_, cell?_modifyCell_self _ hr, trivial⟩
    exact cell?_modifyCell_ne s _ (nodup.2.2 i hi r.slot List.mem_cons_self)

theorem head_linkOlder (h : s.head = first pre older) :
    (s.linkOlder (last none pre) target).head = first pre target := by
  rcases List.eq_nil_or_concat pre with rfl | ⟨init, r, rfl⟩
  · rfl
  · rw [List.concat_eq_append] at h ⊢
    rw [last_append, first_append]
    rw [first_append] at h
    exact h

/-- The first of a piece at the tail of the chain is given another neighbour. -/
theorem Linked.linkNewer (h : Linked s.cell? newer post none) (nodup : (slotsOf post).Nodup) :
    Linked (s.linkNewer (first post none) target).cell? target post none := by
  cases post with
  | nil => trivial
  | cons r rest =>
    obtain ⟨hr, hrest⟩ := h
    refine ⟨cell?_modifyCell_self _ hr, hrest.congr fun i hi => ?_⟩
    refine cell?_modifyCell_ne s _ ?_
    rintro rfl
    exact (List.nodup_cons.mp nodup).1 hi

theorem tail_linkNewer (h : s.tail = last newer post) :
    (s.linkNewer (first post none) target).tail = last target post := by
  cases post with
  | nil => rfl
  | cons r rest => exact h

/-! ### The whole chain -/

/-- The residents in the order in which they are chained. -/
structure Chain (s : Slab κ α) (rs : List (Resident κ α)) : Prop where
  linked : Linked s.cell? none rs none
  head : s.head = first rs none
  tail : s.tail = last none rs
  nodup : (slotsOf rs).Nodup

variable {r : Resident κ α}

theorem Chain.cell_eq (h : Chain s (pre ++ r :: post)) :
    s.cell? r.slot = some (r.cell (last none pre) (first post none)) :=
  (linked_append.mp h.linked).2.1

theorem relinked_unlink (s : Slab κ α) (i : Nat) : Relinked s (s.unlink i) := by
  rw [unlink]
  split
  · exact .refl s
  · exact ((relinked_linkOlder s _ _).trans (relinked_linkNewer _ _ _)).trans
      (relinked_modifyCell _ _ _)

/-- A resident that is taken out of the chain leaves the others as they are. -/
theorem Chain.unlink (h : Chain s (pre ++ r :: post)) :
    Chain (s.unlink r.slot) (pre ++ post) ∧
      (s.unlink r.slot).cell? r.slot = some (r.cell none none) := by
  obtain ⟨nodup, fresh⟩ := nodup_pieces h.nodup
  obtain ⟨hpre, -, hpost⟩ := linked_append.mp h.linked
  rw [slotsOf_append, List.nodup_append] at nodup
  rw [slotsOf_append, List.mem_append, not_or] at fresh
  obtain ⟨npre, npost, apart⟩ := nodup
  rw [Slab.unlink, h.cell_eq]
  -- first the piece before the resident, then the piece after it
  have older : Linked (s.linkOlder (last none pre) (first post none)).cell? none pre
      (first post none) := hpre.linkOlder npre
  have before : Linked (s.linkOlder (last none pre) (first post none)).cell? (some r.slot)
      post none := by
    refine hpost.congr fun i hi => cell?_linkOlder s _ fun hi' => ?_
    exact apart i hi' i hi rfl
  have newer : Linked ((s.linkOlder (last none pre) (first post none)).linkNewer (first post none)
      (last none pre)).cell? (last none pre) post none := before.linkNewer npost
  have older' := older.congr fun i hi =>
    cell?_linkNewer (s.linkOlder (last none pre) (first post none)) (last none pre)
      fun hi' => apart i hi i hi' rfl
  have cell : ((s.linkOlder (last none pre) (first post none)).linkNewer (first post none)
      (last none pre)).cell? r.slot = some (r.cell (last none pre) (first post none)) := by
    rw [cell?_linkNewer _ _ fresh.2, cell?_linkOlder _ _ fresh.1, h.cell_eq]
  refine ⟨⟨?_, ?_, ?_, ?_⟩, cell?_modifyCell_self _ cell⟩
  · -- clearing the links of the resident itself touches neither piece
    refine linked_append.mpr ⟨older'.congr fun i hi => ?_, newer.congr fun i hi => ?_⟩
    · refine cell?_modifyCell_ne _ _ ?_
      rintro rfl
      exact fresh.1 hi
    · refine cell?_modifyCell_ne _ _ ?_
      rintro rfl
      exact fresh.2 hi
  · have front : s.head = first pre (some r.slot) := by
      rw [h.head, first_append]
      rfl
    rw [first_append]
    show (Slab.linkNewer _ _ _).head = _
    rw [head_linkNewer]
    exact head_linkOlder front
  · have back : (s.linkOlder (last none pre) (first post none)).tail = last (some r.slot) post := by
      rw [tail_linkOlder, h.tail, last_append]
      rfl
    rw [last_append]
    show (Slab.linkNewer _ _ _).tail = _
    exact tail_linkNewer back
  · rw [slotsOf_append, List.nodup_append]
    exact ⟨npre, npost, apart⟩

theorem relinked_pushFront (s : Slab κ α) (i : Nat) : Relinked s (s.pushFront i) := by
  have linked := (relinked_modifyCell s i fun c => { c with newer := none, older := s.head }).trans
    (relinked_linkNewer _ s.head (some i))
  exact ⟨linked.capacity, linked.index, linked.free, linked.size, linked.occupied⟩

/-- A resident that is not in the chain is put at its head. -/
theorem Chain.pushFront {a b : Option Nat} (h : Chain s rs) (fresh : r.slot ∉ slotsOf rs)
    (hr : s.cell? r.slot = some (r.cell a b)) : Chain (s.pushFront r.slot) (r :: rs) := by
  have own := cell?_modifyCell_self
    (fun c : Cell κ α => { c with newer := none, older := s.head }) hr
  have others : Linked (s.modifyCell r.slot fun c => { c with newer := none, older := s.head }).cell?
      none rs none := by
    refine h.linked.congr fun i hi => cell?_modifyCell_ne s _ ?_
    rintro rfl
    exact fresh hi
  have linked : Linked (Slab.linkNewer _ (first rs none) (some r.slot)).cell? (some r.slot) rs none :=
    others.linkNewer h.nodup
  refine ⟨⟨?_, ?_⟩, rfl, ?_, List.nodup_cons.mpr ⟨fresh, h.nodup⟩⟩
  · show (Slab.linkNewer _ s.head _).cell? r.slot = _
    rw [h.head] at own ⊢
    rw [cell?_linkNewer _ _ fresh]
    exact own
  · rw [← h.head] at linked
    exact linked
  · show (Slab.linkNewer _ s.head _).tail = _
    rw [h.head]
    exact @tail_linkNewer _ _ none _ _ _ _ (s.modifyCell r.slot _) h.tail

theorem relinked_promote (s : Slab κ α) (i : Nat) : Relinked s (s.promote i) := by
  rw [promote]
  split
  · exact .refl s
  · exact (relinked_unlink s i).trans (relinked_pushFront _ i)

/-- A resident is brought to the head of the chain. -/
theorem Chain.promote (h : Chain s (pre ++ r :: post)) :
    Chain (s.promote r.slot) (r :: (pre ++ post)) := by
  obtain ⟨-, fresh⟩ := nodup_pieces h.nodup
  rw [Slab.promote]
  split
  · next front =>
    cases pre with
    | nil => exact h
    | cons q rest =>
      -- the head is another resident
      rw [h.head] at front
      have same : q.slot = r.slot := Option.some.inj front
      simp [same] at fresh
  · -- taken out, it is put back in front of the others
    obtain ⟨chain, cell⟩ := h.unlink
    exact chain.pushFront fresh cell

/-- The value of a resident is changed. -/
theorem Chain.modifyValue (h : Chain s (pre ++ r :: post)) (f : α → α) :
    Chain (s.modifyCell r.slot fun c => { c with value := f c.value })
      (pre ++ { r with value := f r.value } :: post) := by
  obtain ⟨-, fresh⟩ := nodup_pieces h.nodup
  rw [slotsOf_append, List.mem_append, not_or] at fresh
  obtain ⟨hpre, hr, hpost⟩ := linked_append.mp h.linked
  refine ⟨linked_append.mpr ⟨?_, cell?_modifyCell_self _ hr, ?_⟩, ?_, ?_, ?_⟩
  · refine hpre.congr fun i hi => cell?_modifyCell_ne s _ ?_
    rintro rfl
    exact fresh.1 hi
  · refine hpost.congr fun i hi => cell?_modifyCell_ne s _ ?_
    rintro rfl
    exact fresh.2 hi
  · show s.head = _
    rw [h.head, first_append, first_append]
    rfl
  · show s.tail = _
    rw [h.tail, last_append, last_append]
    rfl
  · have := h.nodup
    rw [slotsOf_append, slotsOf_cons] at this ⊢
    exact this

end

end Scrollback.Slab
