/-
Sets of characters as lists of code-point ranges.  `CharSet` keeps its ranges sorted, disjoint and
apart, so equal sets are equal lists; all operations go through `CharSet.ofRanges`, which
establishes that form, and through `complement`.

`CharSet.ofTable` reads the compact notation in which the tables of the standard are kept:
`41-5A` is a range, `B5` one code point, `100-12E/2` every second code point of a range.
-/

namespace Scrollback

/-- A set of code points: inclusive ranges in increasing order, never touching. -/
structure CharSet where
  ranges : List (Nat × Nat)
  deriving DecidableEq, Repr, Inhabited

namespace CharSet

/-- The greatest code point. -/
def top : Nat := 0x10FFFF

/-- Whether a code point is in the set. -/
def hasCode (s : CharSet) (n : Nat) : Bool :=
  s.ranges.any fun r => r.1 ≤ n && n ≤ r.2

/-- Whether a character is in the set. -/
def has (s : CharSet) (c : Char) : Bool :=
  s.hasCode c.toNat

/-- Put one more range, not lower than those before it, at the end of a canonical list that is
kept with its last range first. -/
def extend (done : List (Nat × Nat)) (r : Nat × Nat) : List (Nat × Nat) :=
  match done with
  | [] => [r]
  | last :: before =>
    if r.1 ≤ last.2 + 1 then (last.1, max last.2 r.2) :: before else r :: last :: before

/-- The canonical form of any list of ranges; a range that is the wrong way round is empty. -/
def ofRanges (ranges : List (Nat × Nat)) : CharSet :=
  let sorted := (ranges.filter fun r => r.1 ≤ r.2).mergeSort fun a b => a.1 ≤ b.1
  ⟨(sorted.foldl extend []).reverse⟩

def empty : CharSet := ⟨[]⟩

/-- Every code point. -/
def full : CharSet := ⟨[(0, top)]⟩

def range (low high : Nat) : CharSet := ofRanges [(low, high)]

def single (c : Char) : CharSet := ⟨[(c.toNat, c.toNat)]⟩

def isEmpty (s : CharSet) : Bool := s.ranges.isEmpty

def union (a b : CharSet) : CharSet :=
  ofRanges (a.ranges ++ b.ranges)

/-- The gaps between canonical ranges, from `low` up to the greatest code point. -/
def gaps (low : Nat) : List (Nat × Nat) → List (Nat × Nat)
  | [] => if low ≤ top then [(low, top)] else []
  | r :: rest =>
    if low < r.1 then (low, r.1 - 1) :: gaps (r.2 + 1) rest else gaps (r.2 + 1) rest

def complement (s : CharSet) : CharSet := ⟨gaps 0 s.ranges⟩

def inter (a b : CharSet) : CharSet := (a.complement.union b.complement).complement

def diff (a b : CharSet) : CharSet := a.inter b.complement

def symmDiff (a b : CharSet) : CharSet := (a.union b).diff (a.inter b)

def unions (sets : List CharSet) : CharSet :=
  ofRanges (sets.flatMap CharSet.ranges)

/-- Whether all members are ASCII. -/
def isAscii (s : CharSet) : Bool :=
  s.ranges.all fun r => r.2 < 0x80

/-! ### The notation of the tables -/

/-- What has been read of a table: the finished ranges, last first, and the entry being read as
its numbers so far, last first (`low`, `high`, `stride`). -/
structure Reading where
  done : List (Nat × Nat) := []
  numbers : List Nat := []

/-- The ranges of one entry. -/
def entry : List Nat → List (Nat × Nat)
  | [n] => [(n, n)]
  | [high, low] => [(low, high)]
  | [stride, high, low] =>
    (List.range ((high - low) / (max stride 1) + 1)).map fun i =>
      (low + i * stride, low + i * stride)
  | _ => []

/-- Read one character of a table. -/
def Reading.step (r : Reading) (c : Char) : Reading :=
  if c == ' ' then ⟨entry r.numbers ++ r.done, []⟩
  else if c == '-' || c == '/' then ⟨r.done, 0 :: r.numbers⟩
  else
    let digit := if c ≤ '9' then c.toNat - 48 else c.toNat - 55
    match r.numbers with
    | [] => ⟨r.done, [digit]⟩
    | n :: rest => ⟨r.done, (n * 16 + digit) :: rest⟩

/-- The set that a table lists. -/
def ofTable (table : String) : CharSet :=
  ofRanges ((table.push ' ').foldl Reading.step {}).done

end CharSet

end Scrollback
