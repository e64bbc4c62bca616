/-
How much room a pattern may take.  The measure is the room, in bytes, of a machine that reads UTF-8
byte by byte, in either direction: a state takes `stateSize`, a way of a branch and a range of
bytes a little more.  Repetitions count as often as they are written out, so the measure of a short
pattern can be great, and it is worked out without building the machine.

Forwards, the ranges of a character set share what they have in common at their ends and at their
starts; backwards they share only ends that are read first.
-/
import Scrollback.Pattern.Expr
import Scrollback.Total

namespace Scrollback.Pattern

/-- The greatest room for a machine. -/
def sizeLimit : Nat := 10 * 1024 * 1024

def stateSize : Nat := 32

def branchSize : Nat := 4

def rangeSize : Nat := 8

/-- Consecutive bytes. -/
abbrev ByteRange := Nat × Nat

namespace Utf8Ranges

/-- The bytes of a code point. -/
def encode (n : Nat) : List Nat :=
  if n < 0x80 then [n]
  else if n < 0x800 then [0xC0 + n / 64, 0x80 + n % 64]
  else if n < 0x10000 then [0xE0 + n / 4096, 0x80 + n / 64 % 64, 0x80 + n % 64]
  else [0xF0 + n / 262144, 0x80 + n / 4096 % 64, 0x80 + n / 64 % 64, 0x80 + n % 64]

/-- Where a range of code points has to be cut so that the encodings of each piece are given by a
range for every byte: at the ends of the encoding lengths, around the surrogates, and where a byte
does not run through its whole range. -/
def cutAfter? (low high : Nat) : Option Nat :=
  let ends := [0x7F, 0x7FF, 0xD7FF, 0xDFFF, 0xFFFF]
  (ends.find? fun e => low ≤ e && e < high) <|>
    if high < 0x80 then none
    else
      [64, 4096, 262144].findSome? fun m =>
        if low / m = high / m then none
        else if low % m ≠ 0 then some (low / m * m + m - 1)
        else if high % m ≠ m - 1 then some (high / m * m - 1)
        else none

/-- The sequences of byte ranges that spell a range of code points, in order. -/
def sequences : Nat → Nat → Nat → List (List ByteRange)
  | 0, _, _ => []
  | fuel + 1, low, high =>
    match cutAfter? low high with
    | some e => sequences fuel low e ++ sequences fuel (e + 1) high
    | none =>
      if 0xD800 ≤ low && high ≤ 0xDFFF then [] else [(encode low).zip (encode high)]

/-- The sequences of a set. -/
def ofSet (s : CharSet) : List (List ByteRange) :=
  s.ranges.flatMap fun r => sequences 32 r.1 r.2

/-- Sequences that share their first range, by that range. -/
def groups : List (List ByteRange) → List (ByteRange × List (List ByteRange))
  | [] => []
  | [] :: rest => groups rest
  | (r :: tail) :: rest =>
    match groups rest with
    | (r', tails) :: more =>
      if r = r' then (r, tail :: tails) :: more else (r, [tail]) :: (r', tails) :: more
    | [] => [(r, [tail])]

/-- The states of a machine that reads any of some sequences forwards, each with its number of
ranges; states that read the same are one. -/
def states : Nat → List (List ByteRange) → List (List (List ByteRange) × Nat) →
    List (List (List ByteRange) × Nat)
  | 0, _, known => known
  | fuel + 1, seqs, known =>
    if seqs = [[]] || known.any fun k => k.1 == seqs then known
    else
      let parts := groups seqs
      parts.foldl (fun known part => states fuel part.2 known) ((seqs, parts.length) :: known)

/-- The room for a set, read forwards. -/
def forwards (s : CharSet) : Nat :=
  stateSize +
    total ((states 5 (ofSet s) []).map fun k => stateSize + rangeSize * k.2)

/-- The ends of sequences, the last byte first, that have to be told apart: those of one set that
begin alike are shared. -/
def beginnings (seqs : List (List ByteRange)) : List (List ByteRange) :=
  (seqs.flatMap fun s => (List.range s.length).map fun i => s.take (i + 1)).eraseDups

/-- The room for a set, read backwards. -/
def backwards (s : CharSet) : Nat :=
  let seqs := ofSet s
  2 * stateSize + branchSize * seqs.length + stateSize * (beginnings seqs).length

end Utf8Ranges

/-- The room for a set of characters. -/
def setSize (reversed : Bool) (s : CharSet) : Nat :=
  match s.ranges with
  | [(low, high)] =>
    if low = high then stateSize * (Utf8Ranges.encode low).length
    else if high < 0x80 then 2 * stateSize + rangeSize
    else if reversed then Utf8Ranges.backwards s else Utf8Ranges.forwards s
  | ranges =>
    if s.isAscii then 2 * stateSize + rangeSize * ranges.length
    else if reversed then Utf8Ranges.backwards s else Utf8Ranges.forwards s

/-- The room for an expression. -/
def Expr.room (reversed : Bool) : Expr → Nat
  | .empty => stateSize
  | .one set => setSize reversed set
  | .look _ => stateSize
  | .seq a b => a.room reversed + b.room reversed
  | .alt a b => a.room reversed + b.room reversed + 2 * (stateSize + branchSize)
  | .group body => body.room reversed + if reversed then 0 else 2 * stateSize
  | .repeats body least most _ =>
    let once := body.room reversed
    let fork := stateSize + 2 * branchSize
    match most with
    | some most => most * once + stateSize + (most - least) * fork
    | none =>
      if least = 0 && body.nullable then once + 2 * fork + stateSize
      else max least 1 * once + fork

/-- Whether machines of an expression stay within the room there is. -/
def Expr.fits (e : Expr) : Bool :=
  e.room false ≤ sizeLimit && e.room true ≤ sizeLimit

end Scrollback.Pattern
