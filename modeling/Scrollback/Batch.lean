/-
Gathering the parts of an answer that arrive one by one, in any order.  A batch waits for a number
of parts; it closes when the last of them has arrived, or at the first failure, and whatever comes
later is not accepted.  The call that closes it takes out what is to be called in the end, and calls it
with the outcome.

What is done with the parts is up to a `Collector`; there are two, a sum and a collection of lines.
-/
import Scrollback.Log.Basic
import Scrollback.Targets

namespace Scrollback

/-- A way to put parts together: where to begin, how to take in one more part, and what to make of
all of them. -/
structure Collector (σ π ω : Type) where
  start : σ
  fold : σ → π → σ
  finish : σ → ω

/-- Add up counts, as 64-bit words. -/
def Collector.sum : Collector Nat Nat Nat :=
  ⟨0, fun total part => (total + part) % (wordMax + 1), id⟩

/-- Collect lines and put them in the order of their times; lines of one time stay in the order in
which they came. -/
def Collector.lines : Collector (List Line) (List Line) (List Line) :=
  ⟨[], fun lines part => lines ++ part, fun lines => lines.mergeSort fun a b => decide (a.time ≤ b.time)⟩

/-- Lines as text, each ended by a line break. -/
def transcript (lines : List Line) : String :=
  "".intercalate (lines.map fun l => l.text ++ "\n")

/-- How a batch ended. -/
inductive Outcome (ω : Type) where
  | done (answer : ω)
  | failed (reason : String)
  deriving DecidableEq, Repr

/-- A batch: how many parts are still waited for, whether it is closed, what the parts so far came to,
and what is to be called in the end.  The last two are taken out when the batch closes. -/
structure Batch (κ σ : Type) where
  remaining : Nat
  closed : Bool
  gathered : Option σ
  onDone : Option κ
  deriving DecidableEq, Repr

namespace Batch

variable {κ σ π ω : Type}

/-- Close a batch, and take out what is to be called and what the parts came to, if they are there. -/
def close (b : Batch κ σ) : Option (κ × σ) × Batch κ σ :=
  let shut := { b with remaining := 0, closed := true }
  match b.onDone with
  | none => (none, shut)
  | some k => (b.gathered.map (k, ·), { shut with gathered := none, onDone := none })

/-- Close a batch that has all its parts: what is to be called with which outcome, and the batch. -/
def finish (g : Collector σ π ω) (b : Batch κ σ) : Option (κ × Outcome ω) × Batch κ σ :=
  let (fire, b) := b.close
  (fire.map fun (k, gathered) => (k, .done (g.finish gathered)), b)

/-- A new batch; one that expects nothing is done at once. -/
def new (g : Collector σ π ω) (expected : Nat) (onDone : κ) :
    Option (κ × Outcome ω) × Batch κ σ :=
  let b := ⟨expected, false, some g.start, some onDone⟩
  if expected = 0 then finish g b else (none, b)

/-- A part arrives: whether it is accepted, and what is to be called if this was the last part. -/
def complete (g : Collector σ π ω) (b : Batch κ σ) (part : π) :
    Bool × Option (κ × Outcome ω) × Batch κ σ :=
  if b.closed then (false, none, b)
  else
    let b := { b with
      gathered := b.gathered.map (g.fold · part)
      remaining := b.remaining - 1 }
    (true, if b.remaining = 0 then finish g b else (none, b))

/-- A failure arrives: whether it is accepted, and what is to be called with it. -/
def fail (b : Batch κ σ) (reason : String) : Bool × Option (κ × Outcome ω) × Batch κ σ :=
  if b.closed then (false, none, b)
  else
    let (fire, b) := b.close
    (true, fire.map fun (k, _) => (k, .failed reason), b)

end Batch

end Scrollback
