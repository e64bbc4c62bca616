/-
What a backslash begins: characters by name or number, classes of characters, and conditions.
-/
import Scrollback.Pattern.Flags
import Scrollback.Text.Decimal

namespace Scrollback.Pattern

/-- What an escape stands for. -/
inductive Atom where
  /-- A character; `byte` if two hexadecimal digits give it, which name a byte if not wide. -/
  | char (c : Char) (byte : Bool)
  | set (s : CharSet)
  | look (l : Look)

namespace Escape

/-- The character with a number. -/
def charOf (n : Nat) : Option Char :=
  if n.isValidChar then some (Char.ofNat n) else none

/-! ### Numbers -/

/-- Read exactly so many hexadecimal digits. -/
def hexFixed (f : Flags) : Nat → Nat → List Char → Option (Nat × List Char)
  | 0, n, cs => some (n, cs)
  | _ + 1, _, [] => none
  | count + 1, n, c :: rest => do
    let d ← hexValue? c
    hexFixed f count (n * 16 + d) (f.skip rest)

/-- Read hexadecimal digits, at least one, up to a closing brace; `found` once there was one. -/
def hexBraced (f : Flags) : Nat → (found : Bool) → Nat → List Char → Option (Nat × List Char)
  | 0, _, _, _ => none
  | _ + 1, _, _, [] => none
  | fuel + 1, found, n, c :: rest =>
    if c = '\x7d' then
      if found then some (n, f.skip rest) else none
    else do
      let d ← hexValue? c
      hexBraced f fuel true (n * 16 + d) (f.skip rest)

/-- How many digits stand without braces after a letter. -/
def hexWidth : Char → Nat
  | 'x' => 2
  | 'u' => 4
  | _ => 8

/-- A character by its number, the letter being read. -/
def numbered (f : Flags) (letter : Char) (cs : List Char) : Option (Atom × List Char) := do
  match ← f.enter cs with
  | '\x7b' :: rest =>
    let (n, rest) ← hexBraced f (rest.length + 1) false 0 (f.skip rest)
    pure (.char (← charOf n) false, rest)
  | cs =>
    let (n, rest) ← hexFixed f (hexWidth letter) 0 cs
    pure (.char (← charOf n) (letter == 'x'), rest)

/-! ### Classes -/

/-- The text up to a closing brace, and what follows the brace. -/
def braced (f : Flags) : Nat → List Char → Option (List Char × List Char)
  | 0, _ => none
  | _ + 1, [] => none
  | fuel + 1, c :: rest =>
    if c = '\x7d' then some ([], rest)
    else (braced f fuel (f.skip rest)).map fun (name, rest) => (c :: name, rest)

/-- A class by the name of a property, the letter being read. -/
def propertyClass (f : Flags) (negated : Bool) (cs : List Char) : Option (Atom × List Char) := do
  let (set?, rest) ← match ← f.enter cs with
    | '\x7b' :: rest => do
      let (name, rest) ← braced f (rest.length + 1) (f.skip rest)
      pure (f.tables.property? name, rest)
    | '\\' :: _ => none
    | c :: rest => pure (f.tables.property? [c], f.skip rest)
    | [] => none
  let set ← set?
  if f.wide then pure (.set (← f.close negated set), rest) else none

/-- The class of a letter: digits, blanks or word characters. -/
def letterSet (f : Flags) : Char → CharSet
  | 'd' => f.digits
  | 's' => f.spaces
  | _ => f.words

/-- A class by its letter; a capital stands for all other characters. -/
def letterClass (f : Flags) (c : Char) (negated : Bool) : Option Atom :=
  let set := letterSet f c
  if !negated then some (.set set)
  else if f.wide then some (.set set.complement)
  else none

/-! ### Conditions -/

/-- The edges of words that have names. -/
def edgeNamed? (name : List Char) : Option WordEdge :=
  if name = "start".toList then some .first
  else if name = "end".toList then some .last
  else if name = "start-half".toList then some .openBefore
  else if name = "end-half".toList then some .openAfter
  else none

/-- A character of a name of an edge. -/
def isEdgeChar (c : Char) : Bool :=
  ('A' ≤ c && c ≤ 'Z') || ('a' ≤ c && c ≤ 'z') || c == '-'

/-- Read a name up to its closing brace. -/
def edgeName (f : Flags) : Nat → List Char → Option (List Char × List Char)
  | 0, _ => none
  | _ + 1, [] => none
  | fuel + 1, c :: rest =>
    if isEdgeChar c then
      (edgeName f fuel (f.skip rest)).map fun (name, rest) => (c :: name, rest)
    else if c = '\x7d' then some ([], rest)
    else none

/-- An edge of a word; a name in braces may say which.  A brace that begins no name belongs to a
repetition. -/
def wordEdge (f : Flags) (cs : List Char) : Option (Atom × List Char) :=
  let plain := some (Atom.look (.word .any f.words), cs)
  match cs with
  | '\x7b' :: rest =>
    match f.skip rest with
    | [] => none
    | c :: more =>
      if isEdgeChar c then do
        let (name, rest) ← edgeName f (more.length + 2) (c :: more)
        let edge ← edgeNamed? name
        pure (.look (.word edge f.words), rest)
      else plain
  | _ => plain

/-! ### All escapes -/

/-- Signs that have a meaning of their own in patterns. -/
def metaChars : List Char := "\\.+*?()|[]\x7b\x7d^$#&-~".toList

/-- Characters that a backslash leaves as they are. -/
def standsForItself (c : Char) : Bool :=
  metaChars.contains c || (c.toNat < 0x80 && !c.isAlphanum && c != '<' && c != '>')

/-- Controls that have a letter. -/
def control? : Char → Option Char
  | 'a' => some '\x07'
  | 'f' => some '\x0c'
  | 't' => some '\t'
  | 'n' => some '\n'
  | 'r' => some '\r'
  | 'v' => some '\x0b'
  | _ => none

/-- Read what follows a backslash. -/
def read (f : Flags) : List Char → Option (Atom × List Char)
  | [] => none
  | c :: rest =>
    if c = 'x' || c = 'u' || c = 'U' then numbered f c rest
    else if c = 'p' || c = 'P' then propertyClass f (c == 'P') rest
    else if c = 'd' || c = 's' || c = 'w' then (letterClass f c false).map (·, rest)
    else if c = 'D' || c = 'S' || c = 'W' then (letterClass f c.toLower true).map (·, rest)
    else if standsForItself c then some (.char c false, rest)
    else
      match c with
      | 'A' => some (.look .textStart, rest)
      | 'z' => some (.look .textEnd, rest)
      | 'b' => wordEdge f rest
      | 'B' => some (.look (.word .none f.words), rest)
      | '<' => some (.look (.word .first f.words), rest)
      | '>' => some (.look (.word .last f.words), rest)
      | c => (control? c).map fun c => (.char c false, rest)

end Escape

end Scrollback.Pattern
