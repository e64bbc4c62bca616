/-
The operations of a slab with nothing taken for granted.  The slab passes over a slot that is not
there or holds no entry; here to reach into such a slot is a failure, and so is to count below
zero on the way along the chain.  On a sound chain the strict operations succeed and are the plain
ones (`Chain.strict_unlink`, `Chain.strict_pushFront`, `Chain.strict_promote`).
-/
import Scrollback.Proofs.Recency.Chain

namespace Scrollback.Slab

namespace Strict

variable {κ α : Type} [BEq κ] [Hashable κ]

/-! ### Slots and links -/

/-- Change the entry in a slot, which must hold one. -/
def modifyCell (s : Slab κ α) (i : Nat) (f : Cell κ α → Cell κ α) : Option (Slab κ α) :=
  (s.cell? i).map fun _ => s.modifyCell i f

def linkOlder (s : Slab κ α) (newer target : Option Nat) : Option (Slab κ α) :=
  match newer with
  | some i => modifyCell s i fun c => { c with older := target }
  | none => some { s with head := target }

def linkNewer (s : Slab κ α) (older target : Option Nat) : Option (Slab κ α) :=
  match older with
  | some i => modifyCell s i fun c => { c with newer := target }
  | none => some { s with tail := target }

def unlink (s : Slab κ α) (i : Nat) : Option (Slab κ α) := do
  let c ← s.cell? i
  let s ← linkOlder s c.newer c.older
  let s ← linkNewer s c.older c.newer
  modifyCell s i fun c => { c with newer := none, older := none }

def pushFront (s : Slab κ α) (i : Nat) : Option (Slab κ α) := do
  let old := s.head
  let s ← modifyCell s i fun c => { c with newer := none, older := old }
  let s ← linkNewer s old (some i)
  some { s with head := some i }

def promote (s : Slab κ α) (i : Nat) : Option (Slab κ α) :=
  if s.head = some i then some s else (unlink s i).bind fun s => pushFront s i

/-- Empty a slot, which must be there; that it is vacant already is no failure. -/
def release (s : Slab κ α) (i : Nat) : Option (Option (κ × α) × Slab κ α) :=
  if i < s.slots.size then some (s.release i) else none

/-- Put a new entry in a slot, which must be there if it is not a new one. -/
def occupy (s : Slab κ α) (c : Cell κ α) : Option (Nat × Slab κ α) :=
  match s.free with
  | i :: _ => if i < s.slots.size then some (s.occupy c) else none
  | [] => some (s.occupy c)

/-! ### Operations -/

def dropLast (s : Slab κ α) : Option (Option (κ × α) × Slab κ α) :=
  match s.tail with
  | none => some (none, s)
  | some i => do
    let s ← unlink s i
    match ← release s i with
    | (none, s) => some (none, s)
    | (some e, s) => some (some e, { s with index := s.index.erase e.1 })

/-- Drop an entry if there is no room for another one. -/
def makeRoom (s : Slab κ α) : Option (Option (κ × α) × Slab κ α) :=
  if s.isFull then dropLast s else some (none, s)

def put (s : Slab κ α) (k : κ) (v : α) : Option (Option (κ × α) × Slab κ α) :=
  match s.index[k]? with
  | some i => do
    let s ← modifyCell s i fun c => { c with value := v }
    let s ← promote s i
    some (none, s)
  | none => do
    let (out, s) ← makeRoom s
    let (i, s) ← occupy s ⟨k, v, none, none⟩
    let s ← pushFront { s with index := s.index.insert k i } i
    some (out, s)

def modify (s : Slab κ α) (k : κ) (f : α → α) : Option (Option α × Slab κ α) :=
  match s.index[k]? with
  | none => some (none, s)
  | some i => do
    let s ← promote s i
    let s ← modifyCell s i fun c => { c with value := f c.value }
    let c ← s.cell? i
    some (some c.value, s)

def get (s : Slab κ α) (k : κ) : Option (Option α × Slab κ α) :=
  match s.index[k]? with
  | none => some (none, s)
  | some i => do
    let s ← promote s i
    let c ← s.cell? i
    some (some c.value, s)

def peek (s : Slab κ α) (k : κ) : Option (Option α) :=
  match s.index[k]? with
  | none => some none
  | some i => (s.cell? i).map fun c => some c.value

def remove (s : Slab κ α) (k : κ) : Option (Option α × Slab κ α) :=
  match s.index[k]? with
  | none => some (none, s)
  | some i => do
    let s ← unlink { s with index := s.index.erase k } i
    let (e, s) ← release s i
    some (e.map Prod.snd, s)

def shrink (capacity : Nat) : Nat → Slab κ α → Option (List (κ × α) × Slab κ α)
  | 0, s => some ([], s)
  | fuel + 1, s =>
    if capacity < s.size then do
      match ← dropLast s with
      | (none, s) => some ([], s)
      | (some e, s) =>
        let (more, s) ← shrink capacity fuel s
        some (e :: more, s)
    else some ([], s)

def resize (s : Slab κ α) (capacity : Nat) : Option (List (κ × α) × Slab κ α) :=
  if capacity = 0 then some ([], { s with capacity := capacity })
  else shrink capacity s.size { s with capacity := capacity }

/-- The entry at a cursor, and the cursor after it.  There must be an entry where the cursor
points, and one to be counted. -/
def next (s : Slab κ α) (c : Cursor) : Option (Option ((κ × α) × Cursor)) :=
  match c.place with
  | none => some none
  | some i => do
    let cell ← s.cell? i
    if c.remaining = 0 then none
    else some (some ((cell.key, cell.value), ⟨cell.older, c.remaining - 1⟩))

/-- The entries at a cursor and after it, each with the count after it; the end of the chain must
be reached in less than `fuel` steps. -/
def trail (s : Slab κ α) : Nat → Cursor → Option (List ((κ × α) × Nat))
  | 0, _ => none
  | fuel + 1, c => do
    match ← next s c with
    | none => some []
    | some (e, c) =>
      let more ← trail s fuel c
      some ((e, c.remaining) :: more)

end Strict

/-! ### Strict and plain links -/

section

variable {κ α : Type} [BEq κ] [Hashable κ] {s : Slab κ α} {newer older target : Option Nat}
  {rs pre post : List (Resident κ α)} {r : Resident κ α} {i : Nat}

theorem strict_modifyCell (h : (s.cell? i).isSome) (f : Cell κ α → Cell κ α) :
    Strict.modifyCell s i f = some (s.modifyCell i f) := by
  obtain ⟨c, hc⟩ := Option.isSome_iff_exists.mp h
  rw [Strict.modifyCell, hc]
  rfl

theorem strict_linkOlder (h : ∀ i, newer = some i → (s.cell? i).isSome) :
    Strict.linkOlder s newer target = some (s.linkOlder newer target) := by
  cases newer with
  | none => rfl
  | some i => exact strict_modifyCell (h i rfl) _

theorem strict_linkNewer (h : ∀ i, older = some i → (s.cell? i).isSome) :
    Strict.linkNewer s older target = some (s.linkNewer older target) := by
  cases older with
  | none => rfl
  | some i => exact strict_modifyCell (h i rfl) _

/-- The slots of linked residents hold entries. -/
theorem Linked.isSome_of_mem (h : Linked s.cell? newer rs older) (hi : i ∈ slotsOf rs) :
    (s.cell? i).isSome := by
  obtain ⟨r, hr, rfl⟩ := List.mem_map.mp hi
  obtain ⟨a, b, cell⟩ := h.cell_of_mem hr
  rw [cell, Option.isSome_some]

omit [BEq κ] [Hashable κ] in
theorem mem_of_last (h : last none rs = some i) : i ∈ slotsOf rs := by
  rcases List.eq_nil_or_concat rs with rfl | ⟨init, r, rfl⟩
  · cases h
  · rw [List.concat_eq_append] at h ⊢
    rw [last_append] at h
    cases h
    simp

omit [BEq κ] [Hashable κ] in
theorem mem_of_first (h : first rs none = some i) : i ∈ slotsOf rs := by
  cases rs with
  | nil => cases h
  | cons r rest =>
    cases h
    exact List.mem_cons_self

/-- To take a resident out of the chain reaches its neighbours and nothing else. -/
theorem Chain.strict_unlink (h : Chain s (pre ++ r :: post)) :
    Strict.unlink s r.slot = some (s.unlink r.slot) := by
  obtain ⟨hpre, hr, hpost⟩ := linked_append.mp h.linked
  have before : Strict.linkOlder s (last none pre) (first post none) =
      some (s.linkOlder (last none pre) (first post none)) :=
    strict_linkOlder fun i hi => hpre.isSome_of_mem (mem_of_last hi)
  have relinked := relinked_linkOlder s (last none pre) (first post none)
  have after : Strict.linkNewer (s.linkOlder (last none pre) (first post none)) (first post none)
      (last none pre) = some ((s.linkOlder (last none pre) (first post none)).linkNewer
        (first post none) (last none pre)) := by
    refine strict_linkNewer fun i hi => ?_
    rw [relinked.occupied]
    exact hpost.isSome_of_mem (mem_of_first hi)
  have own := relinked.trans (relinked_linkNewer _ (first post none) (last none pre))
  rw [Strict.unlink, Slab.unlink, hr]
  show (Strict.linkOlder s (last none pre) (first post none) >>= fun s =>
    Strict.linkNewer s (first post none) (last none pre) >>= fun s => _) = _
  rw [before]
  show (Strict.linkNewer _ (first post none) (last none pre) >>= fun s => _) = _
  rw [after]
  refine strict_modifyCell ?_ _
  rw [own.occupied, hr, Option.isSome_some]

/-- To put a resident at the head of the chain reaches the old head and nothing else. -/
theorem Chain.strict_pushFront (h : Chain s rs) (hi : (s.cell? i).isSome) :
    Strict.pushFront s i = some (s.pushFront i) := by
  rw [Strict.pushFront, strict_modifyCell hi]
  show (Strict.linkNewer _ s.head (some i) >>= _) = _
  rw [strict_linkNewer]
  · rfl
  · intro j hj
    rw [isSome_modifyCell]
    rw [h.head] at hj
    exact h.linked.isSome_of_mem (mem_of_first hj)

theorem Chain.strict_promote (h : Chain s (pre ++ r :: post)) :
    Strict.promote s r.slot = some (s.promote r.slot) := by
  rw [Strict.promote, Slab.promote]
  split
  · rfl
  · obtain ⟨chain, cell⟩ := h.unlink
    rw [h.strict_unlink, Option.bind_some]
    refine chain.strict_pushFront ?_
    rw [cell, Option.isSome_some]

end

end Scrollback.Slab
