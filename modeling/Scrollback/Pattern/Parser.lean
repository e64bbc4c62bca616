/-
Reading a pattern.  The pattern is gone through once from left to right: parts are collected, a
bar closes an alternative, brackets open and close groups.  Flags hold to the end of the group they
are set in, across its bars.

Besides its grammar a pattern has one more condition: it must not nest deeper than `nestLimit`.
Groups, repetitions and bracketed classes count as one level each, and so do lists of two or more
parts or alternatives.
-/
import Scrollback.Pattern.Class

namespace Scrollback.Pattern

/-- How deep a pattern may nest. -/
def nestLimit : Nat := 250

/-- A part of a pattern with its depth; a setting of flags cannot be repeated. -/
structure Part where
  expr : Expr
  depth : Nat := 0
  repeatable : Bool := true

/-- A group that is still open: what stands before it, the alternatives around it, and the flags
that return when it closes. -/
structure Opened where
  parts : List Part
  alternatives : List Part
  flags : Flags
  captures : Bool

/-- Where the reading of a pattern stands.  Lists hold the latest first. -/
structure Reader where
  rest : List Char
  flags : Flags
  parts : List Part := []
  alternatives : List Part := []
  opened : List Opened := []
  names : List (List Char) := []

namespace Part

/-- The depth of a list of parts. -/
def depthOf (parts : List Part) : Nat :=
  let deepest := (parts.map Part.depth).foldl max 0
  if parts.length < 2 then deepest else deepest + 1

end Part

namespace Reader

/-! ### Parts -/

/-- Add a part and go on with a text. -/
def push (r : Reader) (p : Part) (rest : List Char) : Reader :=
  { r with parts := p :: r.parts, rest := rest }

/-- A character as a part. -/
def charPart (f : Flags) (c : Char) : Part :=
  ⟨.one (if f.wide || c.toNat < 0x80 then f.fold (.single c) else .single c), 0, true⟩

/-- The dot. -/
def dot (f : Flags) : Option Part :=
  let all := CharSet.full
  let breaks := if f.returns then CharSet.ofRanges [(0x0A, 0x0A), (0x0D, 0x0D)] else .single '\n'
  if !f.wide then none else some ⟨.one (if f.dotAll then all else all.diff breaks), 0, true⟩

/-- An escape as a part; two digits that name a byte beyond ASCII are no character. -/
def atomPart (f : Flags) : Atom → Option Part
  | .char c byte => if byte && !f.wide && 0x80 ≤ c.toNat then none else some (charPart f c)
  | .set s => some ⟨.one s, 0, true⟩
  | .look l => some ⟨.look l, 0, true⟩

/-- `^`. -/
def lineStart (f : Flags) : Part :=
  ⟨.look (if f.multiLine then .lineStart f.returns else .textStart), 0, true⟩

/-- `$`. -/
def lineEnd (f : Flags) : Part :=
  ⟨.look (if f.multiLine then .lineEnd f.returns else .textEnd), 0, true⟩

/-! ### Repetitions -/

/-- Repeat the latest part. -/
def repeatLatest (r : Reader) (least : Nat) (most : Option Nat) (lazy : Bool) (rest : List Char) :
    Option Reader :=
  match r.parts with
  | p :: before =>
    if p.repeatable then
      let whole : Part := ⟨p.expr.repeated least most (lazy == r.flags.lazyFirst), p.depth + 1, true⟩
      some { r with parts := whole :: before, rest := rest }
    else none
  | [] => none

/-- Whether a question mark follows, which makes a repetition lazy. -/
def lazyMark : List Char → Bool × List Char
  | '?' :: rest => (true, rest)
  | rest => (false, rest)

/-- Blanks after a number. -/
def afterNumber (f : Flags) : Nat → List Char → List Char
  | fuel + 1, c :: rest => if isBlank c then afterNumber f fuel (f.skip rest) else c :: rest
  | _, cs => cs

/-- The digits of a number. -/
def numberDigits (f : Flags) : Nat → List Char → List Char × List Char
  | fuel + 1, c :: rest =>
    if isDigit c then
      let (more, rest) := numberDigits f fuel (f.skip rest)
      (c :: more, rest)
    else ([], c :: rest)
  | _, cs => ([], cs)

/-- A bound of a repetition, blanks around it; the number may be missing. -/
def number (f : Flags) (cs : List Char) : Option Nat × List Char :=
  let (ds, rest) := numberDigits f (cs.length + 1) (trimStart cs)
  (wordOfDigits (UInt32.size) ds, afterNumber f (cs.length + 1) rest)

/-- The bounds of a repetition, the opening brace being read, up to the closing brace. -/
def bounds (f : Flags) (cs : List Char) : Option (Nat × Option Nat × List Char) := do
  let cs ← f.enter cs
  let (least, rest) := number f cs
  let least ← least
  match rest with
  | ',' :: rest =>
    match ← f.enter rest with
    | '\x7d' :: rest => some (least, none, rest)
    | rest =>
      match number f rest with
      | (some most, '\x7d' :: rest) => if least ≤ most then some (least, some most, rest) else none
      | _ => none
  | '\x7d' :: rest => some (least, some least, rest)
  | _ => none

/-! ### Groups -/

/-- A character of a group's name. -/
def isNameChar (tables : Unicode.Tables) (first : Bool) (c : Char) : Bool :=
  c == '_' || tables.letters.has c ||
    (!first && (c == '.' || c == '[' || c == ']' || tables.numbers.has c))

/-- A group's name and what follows it. -/
def groupName (tables : Unicode.Tables) (cs : List Char) : Option (List Char × List Char) :=
  let name := cs.takeWhile (· != '>')
  match name, cs.drop name.length with
  | c :: more, _ :: rest =>
    if isNameChar tables true c && more.all (isNameChar tables false) then some (name, rest) else none
  | _, _ => none

/-- Open a group. -/
def openGroup (r : Reader) (captures : Bool) (inner : Flags) (rest : List Char) : Reader :=
  { r with
    opened := ⟨r.parts, r.alternatives, r.flags, captures⟩ :: r.opened
    parts := [], alternatives := [], flags := inner, rest := rest }

/-- Open a group with a name, which must be new. -/
def openNamed (r : Reader) (cs : List Char) : Option Reader := do
  let (name, rest) ← groupName r.flags.tables cs
  if r.names.contains name then none
  else pure { r.openGroup true r.flags rest with names := name :: r.names }

/-- Set flags, for a group of their own or for the rest of this one. -/
def flagGroup (r : Reader) (cs : List Char) : Option Reader :=
  let list := cs.takeWhile fun c => c != ':' && c != ')'
  if !Flags.wellFormed list then none
  else
    let inner := r.flags.apply list
    match cs.drop list.length with
    | ':' :: rest => some (r.openGroup false inner rest)
    | ')' :: rest =>
      if list.isEmpty then none
      else some { r.push ⟨.empty, 0, false⟩ rest with flags := inner }
    | _ => none

/-- What an opening parenthesis begins.  Conditions on what lies around are not supported. -/
def group (r : Reader) (cs : List Char) : Option Reader :=
  match r.flags.skip cs with
  | '?' :: '=' :: _ => none
  | '?' :: '!' :: _ => none
  | '?' :: '<' :: '=' :: _ => none
  | '?' :: '<' :: '!' :: _ => none
  | '?' :: 'P' :: '<' :: rest => r.openNamed rest
  | '?' :: '<' :: rest => r.openNamed rest
  | '?' :: rest => r.flagGroup rest
  | rest => some (r.openGroup true r.flags rest)

/-- The current list of parts as one. -/
def branch (r : Reader) : Part :=
  let parts := r.parts.reverse
  ⟨Expr.all (parts.map Part.expr), Part.depthOf parts, true⟩

/-- The current group's content as one part. -/
def content (r : Reader) : Part :=
  if r.alternatives.isEmpty then r.branch
  else
    let branches := (r.branch :: r.alternatives).reverse
    ⟨Expr.any (branches.map Part.expr), Part.depthOf branches, true⟩

/-- Close the current group. -/
def closeGroup (r : Reader) (rest : List Char) : Option Reader :=
  match r.opened with
  | [] => none
  | o :: opened =>
    let inner := r.content
    let expr := if o.captures then .group inner.expr else inner.expr
    some { r with
      parts := ⟨expr, inner.depth + 1, true⟩ :: o.parts
      alternatives := o.alternatives, flags := o.flags, opened := opened, rest := rest }

/-! ### The whole pattern -/

/-- Read one sign; nothing is left to read when the answer is `inr`. -/
def step (r : Reader) : Option (Reader ⊕ Reader) :=
  let f := r.flags
  match f.skip r.rest with
  | [] => some (.inr { r with rest := [] })
  | '(' :: rest => (r.group rest).map .inl
  | ')' :: rest => (r.closeGroup rest).map .inl
  | '|' :: rest =>
    some (.inl { r with alternatives := r.branch :: r.alternatives, parts := [], rest := rest })
  | '[' :: rest => do
    let (s, rest) ← Class.read f rest
    pure (.inl (r.push ⟨.one s.set, s.depth, true⟩ rest))
  | '?' :: rest => (r.repeatLatest 0 (some 1) (lazyMark rest).1 (lazyMark rest).2).map .inl
  | '*' :: rest => (r.repeatLatest 0 none (lazyMark rest).1 (lazyMark rest).2).map .inl
  | '+' :: rest => (r.repeatLatest 1 none (lazyMark rest).1 (lazyMark rest).2).map .inl
  | '\x7b' :: rest => do
    let (least, most, rest) ← bounds f rest
    let (lazy, rest) := lazyMark (f.skip rest)
    (r.repeatLatest least most lazy rest).map .inl
  | '\\' :: rest => do
    let (a, rest) ← Escape.read f rest
    pure (.inl (r.push (← atomPart f a) rest))
  | '.' :: rest => do pure (.inl (r.push (← dot f) rest))
  | '^' :: rest => some (.inl (r.push (lineStart f) rest))
  | '$' :: rest => some (.inl (r.push (lineEnd f) rest))
  | c :: rest => some (.inl (r.push (charPart f c) rest))

/-- Read to the end; every sign takes at least one character. -/
def run : Nat → Reader → Option Reader
  | 0, _ => none
  | fuel + 1, r =>
    match r.step with
    | none => none
    | some (.inr r) => some r
    | some (.inl r) => run fuel r

end Reader

/-- Read a pattern. -/
def parse (tables : Unicode.Tables) (caseless : Bool) (source : List Char) : Option Expr := do
  let flags : Flags := { tables := tables, caseless := caseless }
  let r ← Reader.run (source.length + 1) { rest := source, flags := flags }
  let whole := r.content
  if r.opened.isEmpty && whole.depth ≤ nestLimit then some whole.expr else none

end Scrollback.Pattern
