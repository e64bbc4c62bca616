/-
A bounded memory of what was used last.  `Recency` lists its entries from the most to the least
recently used one; a capacity of zero is no bound.  Using an entry brings it to the front, and a
new entry that finds no room drives out the one at the end.
-/

namespace Scrollback

/-- Entries in the order of their last use, the latest first, and how many may be kept. -/
structure Recency (κ α : Type) where
  capacity : Nat
  entries : List (κ × α)
  deriving Repr

namespace Recency

variable {κ α : Type} [DecidableEq κ]

/-- No entries yet. -/
def empty (capacity : Nat) : Recency κ α := ⟨capacity, []⟩

/-- How many entries there are. -/
def size (r : Recency κ α) : Nat := r.entries.length

/-- The keys, the one used last first. -/
def keys (r : Recency κ α) : List κ := r.entries.map Prod.fst

/-- The value of a key; this is no use of it. -/
def peek? (r : Recency κ α) (k : κ) : Option α :=
  r.entries.lookup k

/-- Whether there is an entry for a key. -/
def contains (r : Recency κ α) (k : κ) : Bool :=
  r.entries.any fun e => e.1 = k

/-- The entries of other keys. -/
def others (r : Recency κ α) (k : κ) : List (κ × α) :=
  r.entries.filter fun e => e.1 ≠ k

/-- The memory is bounded and has no room for a new entry. -/
def isFull (r : Recency κ α) : Bool :=
  r.capacity != 0 && r.capacity ≤ r.size

/-- Drop the entry used least recently: that entry and the rest. -/
def dropLast (r : Recency κ α) : Option (κ × α) × Recency κ α :=
  (r.entries.getLast?, { r with entries := r.entries.dropLast })

/-- Set the value of a key: the entry driven out, if any, and the new state.  A known key drives
out nothing. -/
def put (r : Recency κ α) (k : κ) (v : α) : Option (κ × α) × Recency κ α :=
  if r.contains k then (none, { r with entries := (k, v) :: r.others k })
  else
    let (out, r) := if r.isFull then r.dropLast else (none, r)
    (out, { r with entries := (k, v) :: r.entries })

/-- Use a key, its value going through a function: the new value, and the new state. -/
def modify (r : Recency κ α) (k : κ) (f : α → α) : Option α × Recency κ α :=
  match r.peek? k with
  | none => (none, r)
  | some v => (some (f v), { r with entries := (k, f v) :: r.others k })

/-- Use a key: its value, and the new state. -/
def get (r : Recency κ α) (k : κ) : Option α × Recency κ α :=
  r.modify k id

/-- Forget a key: the value it had, and the new state. -/
def remove (r : Recency κ α) (k : κ) : Option α × Recency κ α :=
  (r.peek? k, { r with entries := r.others k })

/-- Set the capacity: the entries driven out, the least recently used one first, and the new
state. -/
def resize (r : Recency κ α) (capacity : Nat) : List (κ × α) × Recency κ α :=
  if capacity = 0 then ([], { r with capacity := 0 })
  else ((r.entries.drop capacity).reverse, ⟨capacity, r.entries.take capacity⟩)

/-- Forget all entries. -/
def clear (r : Recency κ α) : Recency κ α := empty r.capacity

end Recency

end Scrollback
