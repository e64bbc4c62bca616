/-
Conditions on a place in a text.  A condition looks at the character before the place and the one
after it, where there are such, and consumes nothing.
-/
import Scrollback.CharSet

namespace Scrollback.Pattern

/-- Which side of a word a place is at. -/
inductive WordEdge where
  /-- Either end of a word. -/
  | any
  /-- Neither end of a word. -/
  | none
  /-- Where a word begins. -/
  | first
  /-- Where a word ends. -/
  | last
  /-- No word reaches the place from before. -/
  | openBefore
  /-- No word goes on after the place. -/
  | openAfter
  deriving DecidableEq, Repr

/-- A condition on a place in a text. -/
inductive Look where
  | textStart
  | textEnd
  /-- The start of the text or of a line; lines may also be ended by carriage returns. -/
  | lineStart (returns : Bool)
  /-- The end of the text or of a line; lines may also be ended by carriage returns. -/
  | lineEnd (returns : Bool)
  /-- An edge of a word, words being made of the given characters. -/
  | word (edge : WordEdge) (chars : CharSet)
  deriving DecidableEq, Repr

namespace Look

/-- A place where a line starts. -/
def startsLine (returns : Bool) (before after : Option Char) : Bool :=
  match before with
  | .none => true
  | some c => c == '\n' || (returns && c == '\r' && after != some '\n')

/-- A place where a line ends. -/
def endsLine (returns : Bool) (before after : Option Char) : Bool :=
  match after with
  | .none => true
  | some c =>
    if returns then c == '\r' || (c == '\n' && before != some '\r') else c == '\n'

/-- Whether a condition holds between two characters. -/
def holds (l : Look) (before after : Option Char) : Bool :=
  match l with
  | .textStart => before.isNone
  | .textEnd => after.isNone
  | .lineStart returns => startsLine returns before after
  | .lineEnd returns => endsLine returns before after
  | .word edge chars =>
    let b := before.any chars.has
    let a := after.any chars.has
    match edge with
    | .any => b != a
    | .none => b == a
    | .first => !b && a
    | .last => b && !a
    | .openBefore => !b
    | .openAfter => !a

end Look

end Scrollback.Pattern
