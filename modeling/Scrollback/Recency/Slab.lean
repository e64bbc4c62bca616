/-
The same memory with every operation in constant time.  The entries of a `Slab` lie in numbered
slots; links to the entry used just before and just after chain them in the order of their last
use, an index finds the slot of a key, and slots that fall vacant are kept for the next entry.

`Slab.entries` walks along the chain and so gives the list that the slab stands for.
-/
import Scrollback.Text.Quoted
import Std.Data.HashMap

namespace Scrollback

/-- An entry and its neighbours in the chain: `newer` towards the head, `older` towards the tail. -/
structure Slab.Cell (κ α : Type) where
  key : κ
  value : α
  newer : Option Nat := none
  older : Option Nat := none

/-- Slots, the vacant ones among them, the index of keys, and the two ends of the chain. -/
structure Slab (κ α : Type) [BEq κ] [Hashable κ] where
  capacity : Nat
  slots : Array (Option (Slab.Cell κ α))
  free : List Nat
  index : Std.HashMap κ Nat
  head : Option Nat
  tail : Option Nat

namespace Slab

variable {κ α : Type} [BEq κ] [Hashable κ]

/-- No entries and no slots. -/
def empty (capacity : Nat) : Slab κ α := ⟨capacity, #[], [], {}, none, none⟩

/-- How many entries there are. -/
def size (s : Slab κ α) : Nat := s.index.size

/-- Whether there is an entry for a key. -/
def contains (s : Slab κ α) (k : κ) : Bool := s.index.contains k

/-! ### Slots and links -/

/-- The entry in a slot. -/
def cell? (s : Slab κ α) (i : Nat) : Option (Cell κ α) :=
  s.slots[i]?.join

/-- Change the entry in a slot. -/
def modifyCell (s : Slab κ α) (i : Nat) (f : Cell κ α → Cell κ α) : Slab κ α :=
  { s with slots := s.slots.modify i (Option.map f) }

/-- Let the neighbour on the newer side, or else the head, point to `target`. -/
def linkOlder (s : Slab κ α) (newer target : Option Nat) : Slab κ α :=
  match newer with
  | some i => s.modifyCell i fun c => { c with older := target }
  | none => { s with head := target }

/-- Let the neighbour on the older side, or else the tail, point to `target`. -/
def linkNewer (s : Slab κ α) (older target : Option Nat) : Slab κ α :=
  match older with
  | some i => s.modifyCell i fun c => { c with newer := target }
  | none => { s with tail := target }

/-- Take the entry in a slot out of the chain. -/
def unlink (s : Slab κ α) (i : Nat) : Slab κ α :=
  match s.cell? i with
  | none => s
  | some c =>
    ((s.linkOlder c.newer c.older).linkNewer c.older c.newer).modifyCell i fun c =>
      { c with newer := none, older := none }

/-- Put the entry in a slot at the head of the chain. -/
def pushFront (s : Slab κ α) (i : Nat) : Slab κ α :=
  let old := s.head
  { ((s.modifyCell i fun c => { c with newer := none, older := old }).linkNewer old (some i)) with
    head := some i }

/-- Bring the entry in a slot to the head of the chain. -/
def promote (s : Slab κ α) (i : Nat) : Slab κ α :=
  if s.head = some i then s else (s.unlink i).pushFront i

/-- Empty a slot: the entry it held, and the new state. -/
def release (s : Slab κ α) (i : Nat) : Option (κ × α) × Slab κ α :=
  match s.cell? i with
  | none => (none, s)
  | some c =>
    (some (c.key, c.value), { s with slots := s.slots.set! i none, free := i :: s.free })

/-- Put a new entry in a vacant slot, the one that fell vacant last, or in a new one: the slot,
and the new state. -/
def occupy (s : Slab κ α) (c : Cell κ α) : Nat × Slab κ α :=
  match s.free with
  | i :: free => (i, { s with slots := s.slots.set! i (some c), free := free })
  | [] => (s.slots.size, { s with slots := s.slots.push (some c) })

/-! ### Operations -/

/-- Drop the entry used least recently: that entry, and the new state. -/
def dropLast (s : Slab κ α) : Option (κ × α) × Slab κ α :=
  match s.tail with
  | none => (none, s)
  | some i =>
    match (s.unlink i).release i with
    | (none, s) => (none, s)
    | (some e, s) => (some e, { s with index := s.index.erase e.1 })

/-- The memory is bounded and has no room for a new entry. -/
def isFull (s : Slab κ α) : Bool :=
  s.capacity != 0 && s.capacity ≤ s.size

/-- Set the value of a key: the entry driven out, if any, and the new state. -/
def put (s : Slab κ α) (k : κ) (v : α) : Option (κ × α) × Slab κ α :=
  match s.index[k]? with
  | some i => (none, (s.modifyCell i fun c => { c with value := v }).promote i)
  | none =>
    -- the slot of the entry that is driven out is the next to be taken
    let (out, s) := if s.isFull then s.dropLast else (none, s)
    let (i, s) := s.occupy ⟨k, v, none, none⟩
    (out, { s with index := s.index.insert k i }.pushFront i)

/-- Use a key, its value going through a function: the new value, and the new state. -/
def modify (s : Slab κ α) (k : κ) (f : α → α) : Option α × Slab κ α :=
  match s.index[k]? with
  | none => (none, s)
  | some i =>
    let s := (s.promote i).modifyCell i fun c => { c with value := f c.value }
    ((s.cell? i).map Cell.value, s)

/-- Use a key: its value, and the new state. -/
def get (s : Slab κ α) (k : κ) : Option α × Slab κ α :=
  match s.index[k]? with
  | none => (none, s)
  | some i =>
    let s := s.promote i
    ((s.cell? i).map Cell.value, s)

/-- The value of a key; this is no use of it. -/
def peek? (s : Slab κ α) (k : κ) : Option α :=
  s.index[k]?.bind fun i => (s.cell? i).map Cell.value

/-- Forget a key: the value it had, and the new state. -/
def remove (s : Slab κ α) (k : κ) : Option α × Slab κ α :=
  match s.index[k]? with
  | none => (none, s)
  | some i =>
    let (e, s) := ({ s with index := s.index.erase k }.unlink i).release i
    (e.map Prod.snd, s)

/-- Drop entries as long as there are more than `capacity`, but at most `fuel` of them. -/
def shrink (capacity : Nat) : Nat → Slab κ α → List (κ × α) × Slab κ α
  | 0, s => ([], s)
  | fuel + 1, s =>
    if capacity < s.size then
      match s.dropLast with
      | (none, s) => ([], s)
      | (some e, s) =>
        let (more, s) := shrink capacity fuel s
        (e :: more, s)
    else ([], s)

/-- Set the capacity: the entries driven out, the least recently used one first, and the new
state. -/
def resize (s : Slab κ α) (capacity : Nat) : List (κ × α) × Slab κ α :=
  let s := { s with capacity := capacity }
  if capacity = 0 then ([], s) else shrink capacity s.size s

/-- Forget all entries and all slots. -/
def clear (s : Slab κ α) : Slab κ α := empty s.capacity

/-! ### Walking along the chain -/

/-- A place in the chain, and how many entries lie ahead. -/
structure Cursor where
  place : Option Nat
  remaining : Nat

/-- A cursor before the entry used last. -/
def cursor (s : Slab κ α) : Cursor := ⟨s.head, s.size⟩

/-- The entry at a cursor, and the cursor after it. -/
def next? (s : Slab κ α) (c : Cursor) : Option ((κ × α) × Cursor) :=
  (c.place.bind s.cell?).map fun cell =>
    ((cell.key, cell.value), ⟨cell.older, c.remaining - 1⟩)

/-- The entries at a cursor and after it, at most `fuel` of them. -/
def walk (s : Slab κ α) : Nat → Cursor → List (κ × α)
  | 0, _ => []
  | fuel + 1, c =>
    match s.next? c with
    | none => []
    | some (e, c) => e :: walk s fuel c

/-- The entries, the one used last first. -/
def entries (s : Slab κ α) : List (κ × α) :=
  s.walk s.size s.cursor

/-- How a memory with text keys is shown. -/
def describe (s : Slab String α) : String :=
  "LruCache \x7b capacity: " ++ decimal s.capacity ++ ", keys: [" ++
    ", ".intercalate (s.entries.map fun e => quoted e.1) ++ "] \x7d"

end Slab

end Scrollback
