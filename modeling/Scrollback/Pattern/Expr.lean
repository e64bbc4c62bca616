/-
Regular expressions.  `Expr` is what a pattern says once all its flags are worked in: every
character is a set of characters, every anchor a condition.

`Expr.repeated` keeps repetitions small that cannot matter: what can only match the empty text is
tried at most once.
-/
import Scrollback.Pattern.Look

namespace Scrollback.Pattern

/-- A regular expression. -/
inductive Expr where
  /-- The empty text. -/
  | empty
  /-- One character of a set. -/
  | one (set : CharSet)
  /-- The empty text, where a condition holds. -/
  | look (l : Look)
  /-- One after the other. -/
  | seq (a b : Expr)
  /-- Either of the two, the first one for choice. -/
  | alt (a b : Expr)
  /-- Several times, as often as possible or, if not greedy, as seldom. -/
  | repeats (body : Expr) (least : Nat) (most : Option Nat) (greedy : Bool)
  /-- A part that is singled out; it matches what its body matches. -/
  | group (body : Expr)
  deriving Repr, Inhabited

namespace Expr

/-- Whether the empty text can be matched, conditions aside. -/
def nullable : Expr → Bool
  | empty => true
  | one _ => false
  | look _ => true
  | seq a b => a.nullable && b.nullable
  | alt a b => a.nullable || b.nullable
  | repeats body least _ _ => least == 0 || body.nullable
  | group body => body.nullable

/-- Whether nothing but the empty text can be matched. -/
def onlyEmpty : Expr → Bool
  | empty => true
  | one _ => false
  | look _ => true
  | seq a b => a.onlyEmpty && b.onlyEmpty
  | alt a b => a.onlyEmpty && b.onlyEmpty
  | repeats body _ _ _ => body.onlyEmpty
  | group body => body.onlyEmpty

/-- A repetition; what only matches the empty text need not be repeated. -/
def repeated (body : Expr) (least : Nat) (most : Option Nat) (greedy : Bool) : Expr :=
  let least := if body.onlyEmpty then min least 1 else least
  let most := if body.onlyEmpty then some (min (most.getD 1) 1) else most
  if most = some 0 then empty
  else if least = 1 ∧ most = some 1 then body
  else repeats body least most greedy

/-- All of some expressions in order. -/
def all : List Expr → Expr
  | [] => empty
  | [e] => e
  | e :: rest => seq e (all rest)

/-- Any of some expressions, earlier ones for choice. -/
def any : List Expr → Expr
  | [] => empty
  | [e] => e
  | e :: rest => alt e (any rest)

end Expr

end Scrollback.Pattern
