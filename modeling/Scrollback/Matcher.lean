/-
What is searched for in messages: a text, or a regular expression.

A text is counted wherever it begins, so occurrences may overlap; a regular expression counts
matches that do not.  A message matches a text that it contains, and a regular expression that
matches all of it.
-/
import Scrollback.Pattern.Parser
import Scrollback.Pattern.Search
import Scrollback.Pattern.Size
import Scrollback.Service
import Scrollback.Text.Utf8

namespace Scrollback

/-- Why a regular expression is refused. -/
inductive PatternError where
  /-- It is not well formed. -/
  | malformed
  /-- Its machine would be too large. -/
  | tooBig
  deriving DecidableEq, Repr

/-- The machine of a regular expression. -/
def Pattern.compile (tables : Unicode.Tables) (caseless : Bool) (source : String) :
    Except PatternError Pattern.Program :=
  match Pattern.parse tables caseless source.toList with
  | none => .error .malformed
  | some e => if e.fits then .ok e.program else .error .tooBig

/-- What to search for. -/
inductive Matcher where
  /-- A text; if caseless, ASCII letters stand for either case and are kept in lower case. -/
  | substring (needle : String) (caseless : Bool)
  /-- A regular expression: a machine that finds it anywhere, and one that finds it only as the
  whole text. -/
  | expression (any whole : Pattern.Program)
  deriving Repr

namespace Matcher

/-- A text with its ASCII letters in lower case. -/
def lowered (s : String) : String :=
  String.ofList (s.toList.map Service.asciiLower)

/-- Search for a text. -/
def ofText (needle : String) (caseless : Bool) : Matcher :=
  .substring (if caseless then lowered needle else needle) caseless

/-- The pattern that matches a whole text where the given one matches some of it. -/
def wholePattern (pattern : String) : String :=
  "^(?:" ++ pattern ++ ")$"

/-- Search for a regular expression. -/
def ofPattern (tables : Unicode.Tables) (pattern : String) (caseless : Bool) :
    Except PatternError Matcher := do
  let any ← Pattern.compile tables caseless pattern
  let whole ← Pattern.compile tables caseless (wholePattern pattern)
  pure (.expression any whole)

/-- A byte in lower case, if it is an ASCII letter. -/
def lowerByte (b : UInt8) : UInt8 :=
  if 0x41 ≤ b && b ≤ 0x5A then b + 0x20 else b

/-- Bytes that are the same, up to the case of ASCII letters if `caseless`. -/
def agree (caseless : Bool) (a b : List UInt8) : Bool :=
  if caseless then a.map lowerByte == b.map lowerByte else a == b

/-- How many stretches of the bytes agree with a needle, added to those found so far. -/
def occurrencesFrom (caseless : Bool) (needle : List UInt8) : Nat → List UInt8 → Nat
  | found, [] => found
  | found, b :: rest =>
    let here := agree caseless needle ((b :: rest).take needle.length)
    occurrencesFrom caseless needle (if here then found + 1 else found) rest

/-- How often a message has what is searched for; nothing is no text to be found. -/
def count (m : Matcher) (message : String) : Nat :=
  match m with
  | .substring needle caseless =>
    if needle.isEmpty || message.utf8ByteSize < needle.utf8ByteSize then 0
    else occurrencesFrom caseless (utf8 needle) 0 (utf8 message)
  | .expression any _ => any.count message.toList

/-- Whether some tail of a text begins with a needle. -/
def isWithin (needle : List Char) : List Char → Bool
  | [] => needle.isEmpty
  | c :: rest => needle.isPrefixOf (c :: rest) || isWithin needle rest

/-- Whether a message is one that is searched for. -/
def matchesText (m : Matcher) (message : String) : Bool :=
  match m with
  | .substring needle caseless =>
    isWithin needle.toList (if caseless then lowered message else message).toList
  | .expression _ whole => whole.found message.toList

end Matcher

end Scrollback
