/-
Classes in brackets: characters, ranges, classes with a name, further brackets, and the three
operations `&&`, `--` and `~~`, which all bind alike, to the left.

`Class.read` also says how deeply the class nests, which is what the depth of patterns is measured
by: brackets count, and so do lists of two or more members, and operations.
-/
import Scrollback.Pattern.Escape

namespace Scrollback.Pattern.Class

/-- The operations on classes. -/
inductive Operation where
  | intersection
  | difference
  | symmetricDifference
  deriving DecidableEq, Repr

def Operation.apply : Operation → CharSet → CharSet → CharSet
  | .intersection => CharSet.inter
  | .difference => CharSet.diff
  | .symmetricDifference => CharSet.symmDiff

/-- A class with its depth. -/
structure Sized where
  set : CharSet
  depth : Nat

/-- What has been read inside a pair of brackets: whether it is negated, the operation that waits
for its right side, and the members read since. -/
structure Level where
  negated : Bool
  pending : Option (Operation × Sized) := none
  ranges : List (Nat × Nat) := []
  count : Nat := 0
  depth : Nat := 0

namespace Level

/-- One more member. -/
def add (l : Level) (s : Sized) : Level :=
  { l with ranges := s.set.ranges ++ l.ranges, count := l.count + 1, depth := max l.depth s.depth }

/-- The members read so far, joined to what waits for them. -/
def operand (f : Flags) (l : Level) : Sized :=
  let right : Sized := ⟨.ofRanges l.ranges, if l.count < 2 then l.depth else l.depth + 1⟩
  match l.pending with
  | none => right
  | some (op, left) => ⟨op.apply (f.fold left.set) (f.fold right.set), max left.depth right.depth + 1⟩

/-- Start the right side of an operation. -/
def operate (f : Flags) (l : Level) (op : Operation) : Level :=
  ⟨l.negated, some (op, l.operand f), [], 0, 0⟩

/-- The class, once its bracket closes. -/
def close (f : Flags) (l : Level) : Option Sized :=
  let all := l.operand f
  (f.close l.negated all.set).map fun s => ⟨s, all.depth + 1⟩

end Level

/-! ### Members -/

/-- A character as a member; what is not wide holds no characters beyond ASCII. -/
def member (f : Flags) (c : Char) : Option Char :=
  if f.wide || c.toNat < 0x80 then some c else none

/-- One character or escape. -/
def atom (f : Flags) : List Char → Option (Atom × List Char)
  | [] => none
  | '\\' :: rest => Escape.read f rest
  | c :: rest => some (.char c false, rest)

/-- The characters of a member that is no range. -/
def atomSet (f : Flags) : Atom → Option CharSet
  | .char c _ => (member f c).map CharSet.single
  | .set s => some s
  | .look _ => none

/-- The end of a range. -/
def bound (f : Flags) : Atom → Option Char
  | .char c _ => member f c
  | _ => none

/-- A single member, or a range.  A hyphen makes no range before a closing bracket or another
hyphen. -/
def memberOrRange (f : Flags) (cs : List Char) : Option (CharSet × List Char) := do
  let (first, rest) ← atom f cs
  let rest ← f.enter rest
  match rest with
  | '-' :: more =>
    if f.sight more = some ']' || f.sight more = some '-' then
      pure (← atomSet f first, rest)
    else
      let (last, rest) ← f.enter more >>= atom f
      let low ← bound f first
      let high ← bound f last
      if low ≤ high then pure (.range low.toNat high.toNat, rest) else none
  | _ => pure (← atomSet f first, rest)

/-- The ASCII classes that have names. -/
def asciiRanges? (name : List Char) : Option (List (Nat × Nat)) :=
  let digit := (0x30, 0x39)
  let upper := (0x41, 0x5A)
  let lower := (0x61, 0x7A)
  let table : List (String × List (Nat × Nat)) := [
    ("alnum", [digit, upper, lower]),
    ("alpha", [upper, lower]),
    ("ascii", [(0x00, 0x7F)]),
    ("blank", [(0x09, 0x09), (0x20, 0x20)]),
    ("cntrl", [(0x00, 0x1F), (0x7F, 0x7F)]),
    ("digit", [digit]),
    ("graph", [(0x21, 0x7E)]),
    ("lower", [lower]),
    ("print", [(0x20, 0x7E)]),
    ("punct", [(0x21, 0x2F), (0x3A, 0x40), (0x5B, 0x60), (0x7B, 0x7E)]),
    ("space", [(0x09, 0x0D), (0x20, 0x20)]),
    ("upper", [upper]),
    ("word", [digit, upper, (0x5F, 0x5F), lower]),
    ("xdigit", [digit, (0x41, 0x46), (0x61, 0x66)])]
  (table.find? fun row => row.1.toList == name).map Prod.snd

/-- What stands between an opening bracket and a colon on one side, and a colon and a closing
bracket on the other: whether it is negated, its characters, and what follows. -/
def ascii? : List Char → Option (Bool × CharSet × List Char)
  | ':' :: rest =>
    let (negated, rest) := match rest with
      | '^' :: rest => (true, rest)
      | rest => (false, rest)
    let name := rest.takeWhile (· != ':')
    match rest.drop name.length with
    | ':' :: ']' :: rest => (asciiRanges? name).map fun r => (negated, .ofRanges r, rest)
    | _ => none
  | _ => none

/-! ### Brackets -/

/-- Hyphens at the very start are members. -/
def leadingHyphens (f : Flags) : Nat → Level → List Char → Option (Level × List Char)
  | fuel + 1, l, '-' :: rest => do
    leadingHyphens f fuel (l.add ⟨.single '-', 0⟩) (← f.enter rest)
  | _, l, cs => some (l, cs)

/-- The start of a class, its bracket being read: a caret negates it, and a closing bracket that
comes first is a member. -/
def start (f : Flags) (cs : List Char) : Option (Level × List Char) := do
  let cs ← f.enter cs
  let (negated, cs) ← match cs with
    | '^' :: rest => (f.enter rest).map fun cs => (true, cs)
    | cs => some (false, cs)
  let (l, cs) ← leadingHyphens f (cs.length + 1) ⟨negated, none, [], 0, 0⟩ cs
  match cs with
  | ']' :: rest =>
    if l.count = 0 then (f.enter rest).map fun cs => (l.add ⟨.single ']', 0⟩, cs)
    else some (l, cs)
  | cs => some (l, cs)

/-- The rest of a class, up to and with its closing bracket. -/
def body (f : Flags) : Nat → Level → List Char → Option (Sized × List Char)
  | 0, _, _ => none
  | fuel + 1, l, cs =>
    match f.skip cs with
    | [] => none
    | '[' :: rest =>
      match ascii? rest with
      | some (negated, set, rest) => do
        body f fuel (l.add ⟨← f.close negated set, 0⟩) rest
      | none => do
        let (inner, rest) ← start f rest
        let (s, rest) ← body f fuel inner rest
        body f fuel (l.add s) rest
    | ']' :: rest => (l.close f).map fun s => (s, rest)
    | '&' :: '&' :: rest => body f fuel (l.operate f .intersection) rest
    | '-' :: '-' :: rest => body f fuel (l.operate f .difference) rest
    | '~' :: '~' :: rest => body f fuel (l.operate f .symmetricDifference) rest
    | cs => do
      let (set, rest) ← memberOrRange f cs
      body f fuel (l.add ⟨set, 0⟩) rest

/-- Read a class, its opening bracket being read. -/
def read (f : Flags) (cs : List Char) : Option (Sized × List Char) := do
  let (l, rest) ← start f cs
  body f (cs.length + 1) l rest

end Scrollback.Pattern.Class
