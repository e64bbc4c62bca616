/-
Machines for regular expressions.  A `Program` is a list of instructions, each of which consumes a
character, checks a condition, or branches; `Expr.emit` puts an expression in front of a given
instruction, so programs are built from their end.

A branch prefers its first way.  A repetition that can match the empty text gets a branch of its
own at its start, so that every way round it goes through its body first.
-/
import Scrollback.Pattern.Expr

namespace Scrollback.Pattern

/-- An instruction; numbers are those of the instructions to go on with. -/
inductive Instr where
  /-- The text matches up to here. -/
  | accept
  /-- Consume a character of a set. -/
  | one (set : CharSet) (next : Nat)
  /-- Go on only where a condition holds. -/
  | look (l : Look) (next : Nat)
  /-- Go on in two ways, the first one for choice. -/
  | fork (first second : Nat)
  deriving Repr, Inhabited

/-- Instructions by number. -/
abbrev Code := Array Instr

namespace Code

/-- Add an instruction: its number and the longer code. -/
def put (code : Code) (i : Instr) : Nat × Code :=
  (code.size, code.push i)

end Code

/-- A branch for a repetition: once more, or on. -/
def loopFork (greedy : Bool) (again next : Nat) : Instr :=
  if greedy then .fork again next else .fork next again

/-- Do one thing after another so many times. -/
def times {α : Type} (f : α → α) : Nat → α → α
  | 0, a => a
  | n + 1, a => times f n (f a)

/-- A loop around a body that is entered from the branch: go round as long as the body matches. -/
def emitLoop (emitBody : Nat → Code → Nat × Code) (greedy : Bool) (next : Nat) (code : Code) :
    Nat × Nat × Code :=
  let (fork, code) := code.put .accept
  let (start, code) := emitBody fork code
  (start, fork, code.set! fork (loopFork greedy start next))

/-- Instructions that match an expression and then go on with `next`: the number to begin with and
the longer code. -/
def Expr.emit : Expr → Nat → Code → Nat × Code
  | .empty, next, code => (next, code)
  | .one set, next, code => code.put (.one set next)
  | .look l, next, code => code.put (.look l next)
  | .seq a b, next, code =>
    let (mid, code) := b.emit next code
    a.emit mid code
  | .alt a b, next, code =>
    let (second, code) := b.emit next code
    let (first, code) := a.emit next code
    code.put (.fork first second)
  | .group body, next, code => body.emit next code
  | .repeats body least most greedy, next, code =>
    let exactly (n : Nat) (at' : Nat × Code) : Nat × Code :=
      times (fun (next, code) => body.emit next code) n at'
    match most with
    | some most =>
      let optional (at' : Nat × Code) : Nat × Code :=
        let (start, code) := body.emit at'.1 at'.2
        code.put (loopFork greedy start next)
      exactly least (times optional (most - least) (next, code))
    | none =>
      let (start, fork, code) := emitLoop (fun next code => body.emit next code) greedy next code
      if least = 0 then
        if body.nullable then code.put (loopFork greedy start next) else (fork, code)
      else exactly (least - 1) (start, code)

/-- A machine: its instructions and the one to begin with. -/
structure Program where
  code : Code
  start : Nat
  deriving Repr, Inhabited

/-- The machine of an expression; instruction 0 accepts. -/
def Expr.program (e : Expr) : Program :=
  let (start, code) := e.emit 0 #[.accept]
  ⟨code, start⟩

end Scrollback.Pattern
