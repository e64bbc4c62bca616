/-
What is asked of a bounded memory that forgets what was used least recently, by those that keep
something in one: a `Recency`, which is the list of its entries, or a `Slab`.
-/
import Scrollback.Recency.Basic
import Scrollback.Recency.Slab

namespace Scrollback

/-- The operations of a memory `μ` with keys in `κ` and values in `α`. -/
class Memory (μ : Type) (κ α : outParam Type) where
  /-- No entries, and how many there may be; zero is no bound. -/
  empty : Nat → μ
  /-- The keys, the one used last first. -/
  keys : μ → List κ
  contains : μ → κ → Bool
  /-- Use a key. -/
  get : μ → κ → Option α × μ
  /-- Set the value of a key, which may drive out an entry. -/
  put : μ → κ → α → Option (κ × α) × μ
  remove : μ → κ → Option α × μ
  /-- Set how many entries there may be, which may drive out several. -/
  resize : μ → Nat → List (κ × α) × μ

namespace Memory

variable {κ α : Type}

@[default_instance]
instance [DecidableEq κ] : Memory (Recency κ α) κ α where
  empty := .empty
  keys := Recency.keys
  contains := Recency.contains
  get := Recency.get
  put := Recency.put
  remove := Recency.remove
  resize := Recency.resize

@[simp]
theorem get_recency [DecidableEq κ] (r : Recency κ α) (k : κ) : Memory.get r k = r.get k := rfl

@[simp]
theorem remove_recency [DecidableEq κ] (r : Recency κ α) (k : κ) :
    Memory.remove r k = r.remove k := rfl

instance [BEq κ] [Hashable κ] : Memory (Slab κ α) κ α where
  empty := .empty
  keys s := s.entries.map Prod.fst
  contains := Slab.contains
  get := Slab.get
  put := Slab.put
  remove := Slab.remove
  resize := Slab.resize

end Memory

end Scrollback
