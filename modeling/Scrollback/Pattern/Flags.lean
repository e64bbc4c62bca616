/-
The flags of a pattern, set by letters such as those of `(?im-s)`, the sets of characters that depend
on them, and the blanks and comments that a verbose pattern may hold between its signs.
-/
import Scrollback.Pattern.Expr
import Scrollback.Text.Blank
import Scrollback.Unicode.Tables

namespace Scrollback.Pattern

/-- How a stretch of a pattern is to be read, and by which tables. -/
structure Flags where
  tables : Unicode.Tables
  /-- Letters stand for either case. -/
  caseless : Bool := false
  /-- `^` and `$` hold at every line. -/
  multiLine : Bool := false
  /-- The dot matches line breaks too. -/
  dotAll : Bool := false
  /-- Repetitions are lazy, and those marked as lazy are greedy. -/
  lazyFirst : Bool := false
  /-- Classes reach beyond ASCII. -/
  wide : Bool := true
  /-- Lines may also be ended by carriage returns. -/
  returns : Bool := false
  /-- Blanks and comments are passed over. -/
  verbose : Bool := false

namespace Flags

/-- The letters of the flags. -/
def letters : List Char := ['i', 'm', 's', 'U', 'u', 'R', 'x']

/-- Turn the flag of a letter on or off. -/
def set (f : Flags) (on : Bool) (letter : Char) : Flags :=
  match letter with
  | 'i' => { f with caseless := on }
  | 'm' => { f with multiLine := on }
  | 's' => { f with dotAll := on }
  | 'U' => { f with lazyFirst := on }
  | 'u' => { f with wide := on }
  | 'R' => { f with returns := on }
  | 'x' => { f with verbose := on }
  | _ => f

/-- A list of flags: known letters, none twice, and at most one hyphen, not at the end. -/
def wellFormed (list : List Char) : Bool :=
  list.all (fun c => c == '-' || letters.contains c) && decide list.Nodup &&
    list.getLast? != some '-'

/-- Turn on the flags before the hyphen and off those after it. -/
def apply (f : Flags) (list : List Char) : Flags :=
  let on := list.takeWhile (· != '-')
  let off := list.drop on.length
  off.foldl (fun f c => f.set false c) (on.foldl (fun f c => f.set true c) f)

/-! ### Blanks and comments -/

/-- Pass over blanks and over comments, which a hash starts and a line break ends; `inside` tells
whether the text begins inside a comment. -/
def passBlank : (inside : Bool) → List Char → List Char
  | _, [] => []
  | true, c :: rest => passBlank (c != '\n') rest
  | false, c :: rest =>
    if isBlank c then passBlank false rest
    else if c = '#' then passBlank true rest
    else c :: rest

/-- Pass over what a verbose pattern may hold between its signs. -/
def skip (f : Flags) (cs : List Char) : List Char :=
  if f.verbose then passBlank false cs else cs

/-- Go to the first sign of a text, which must have one. -/
def enter (f : Flags) (cs : List Char) : Option (List Char) :=
  match f.skip cs with
  | [] => none
  | cs => some cs

/-- The first character after blanks, where one hash, too, is passed over. -/
def sightAfterHash : (hash : Bool) → List Char → Option Char
  | _, [] => none
  | hash, c :: rest =>
    if isBlank c then sightAfterHash hash rest
    else if c = '#' && !hash then sightAfterHash true rest
    else some c

/-- The character that comes next, as far as the sign before it needs to know. -/
def sight (f : Flags) (cs : List Char) : Option Char :=
  if f.verbose then sightAfterHash false cs <|> cs.head? else cs.head?

/-! ### Sets under flags -/

def asciiDigitChars : CharSet := CharSet.range 0x30 0x39

def asciiSpaceChars : CharSet := CharSet.ofRanges [(0x09, 0x0D), (0x20, 0x20)]

def asciiWordChars : CharSet :=
  CharSet.ofRanges [(0x30, 0x39), (0x41, 0x5A), (0x5F, 0x5F), (0x61, 0x7A)]

/-- Digits. -/
def digits (f : Flags) : CharSet :=
  if f.wide then f.tables.digits else asciiDigitChars

/-- Blanks and line breaks. -/
def spaces (f : Flags) : CharSet :=
  if f.wide then f.tables.spaces else asciiSpaceChars

/-- What words are made of. -/
def words (f : Flags) : CharSet :=
  if f.wide then f.tables.words else asciiWordChars

/-- Add the other case of the members, if letters stand for either case. -/
def fold (f : Flags) (s : CharSet) : CharSet :=
  if !f.caseless then s else if f.wide then f.tables.foldCase s else s.foldAsciiCase

/-- A set, or the set of all other characters.  A set that is not wide cannot reach beyond ASCII,
so it has no complement. -/
def close (f : Flags) (negated : Bool) (s : CharSet) : Option CharSet :=
  let s := f.fold s
  if f.wide then some (if negated then s.complement else s)
  else if negated || !s.isAscii then none
  else some s

end Flags

end Scrollback.Pattern
