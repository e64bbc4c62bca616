/-
Running machines.  At every place of a text a machine is in several instructions at once, the
threads; they are kept in order of preference, and none twice.  When one accepts, those after it
are given up, and the ones before it may still find a match that is to be preferred.

`Program.matchLength?` is the length of the preferred match at a place, `Program.found` tells
whether there is any in a text, and `Program.count` counts matches from left to right, each
starting where the one before it ended or later.
-/
import Scrollback.Pattern.Program

namespace Scrollback.Pattern

/-- A thread that waits for a character: the set it waits for, and where it goes on. -/
abbrev Waiting := CharSet × Nat

/-- What becomes of the threads at a place: whether one accepts, and the waiting threads that are
preferred to it, in order. -/
structure Place where
  accepted : Bool
  waiting : List Waiting

namespace Program

/-- Follow branches and conditions between two characters.  `seen` marks instructions that have
been visited, `found` holds the waiting threads so far, the latest first. -/
def follow (code : Code) (before after : Option Char) :
    Nat → List Nat → (seen : Array Bool) → (found : List Waiting) → Place
  | 0, _, _, found => ⟨false, found.reverse⟩
  | _ + 1, [], _, found => ⟨false, found.reverse⟩
  | fuel + 1, i :: stack, seen, found =>
    if seen.getD i true then follow code before after fuel stack seen found
    else
      let seen := seen.set! i true
      match code.getD i .accept with
      | .accept => ⟨true, found.reverse⟩
      | .one set next => follow code before after fuel stack seen ((set, next) :: found)
      | .look l next =>
        if l.holds before after then follow code before after fuel (next :: stack) seen found
        else follow code before after fuel stack seen found
      | .fork first second => follow code before after fuel (first :: second :: stack) seen found

/-- The threads at a place that begin in the given instructions.  Every instruction is visited at
most once and adds at most two to be visited. -/
def place (p : Program) (before after : Option Char) (starts : List Nat) : Place :=
  follow p.code before after (starts.length + 3 * p.code.size + 1) starts
    (Array.replicate p.code.size false) []

/-- Where the waiting threads go on after a character. -/
def advance (c : Char) (waiting : List Waiting) : List Nat :=
  waiting.filterMap fun w => if w.1.has c then some w.2 else none

/-- Run on, in given instructions, `n` characters having been consumed; `best` is the length of
the match found so far. -/
def run (p : Program) : Option Char → List Char → List Nat → Nat → Option Nat → Option Nat
  | before, [], starts, n, best =>
    if (p.place before none starts).accepted then some n else best
  | before, c :: rest, starts, n, best =>
    let here := p.place before (some c) starts
    let best := if here.accepted then some n else best
    if here.waiting.isEmpty then best
    else run p (some c) rest (advance c here.waiting) (n + 1) best

/-- The length of the preferred match that begins at a place, given the character before it and
the text after it. -/
def matchLength? (p : Program) (before : Option Char) (cs : List Char) : Option Nat :=
  p.run before cs [p.start] 0 none

/-- Whether some match begins in the text or at its end. -/
def foundFrom (p : Program) : Option Char → List Char → Bool
  | before, [] => (p.matchLength? before []).isSome
  | before, c :: rest => (p.matchLength? before (c :: rest)).isSome || foundFrom p (some c) rest

/-- Whether there is a match in a text. -/
def found (p : Program) (cs : List Char) : Bool :=
  p.foundFrom none cs

/-- Count matches from a place on, added to those found so far.  `skip` characters still belong to
the last match; `fresh` tells that no match ended here, for an empty match does not count where
another one ended. -/
def countFrom (p : Program) : Nat → Option Char → List Char → (skip : Nat) → (fresh : Bool) → Nat
  | n, before, [], _, fresh => if fresh && (p.matchLength? before []).isSome then n + 1 else n
  | n, _, c :: rest, skip + 1, _ => countFrom p n (some c) rest skip (skip != 0)
  | n, before, c :: rest, 0, fresh =>
    match p.matchLength? before (c :: rest) with
    | none => countFrom p n (some c) rest 0 true
    | some 0 => countFrom p (if fresh then n + 1 else n) (some c) rest 0 true
    | some (length + 1) => countFrom p (n + 1) (some c) rest length (length != 0)

/-- How many matches there are in a text, none overlapping another. -/
def count (p : Program) (cs : List Char) : Nat :=
  p.countFrom 0 none cs 0 true

end Program

end Scrollback.Pattern
