/-
Logs.  A `Log` owns one text; every author name and every message is a span of it, so the log can
be moved and stored without copying its lines.  The names are kept once each, in the order of
their bytes, and `Log.nameIndex?` finds one by halving.

Two logs are the same (`Log.same`) when they have the same identity, validity and names, and their lines
say the same; where the spans lie does not matter.
-/
import Scrollback.Log.Id
import Scrollback.Log.Line

namespace Scrollback

/-- A line of a log: its time, and where its author and its message stand in the log's text. -/
structure LineSpan where
  time : Instant
  author : Span
  message : Span
  deriving DecidableEq, Repr

/-- What a line says: who said what, and when. -/
structure Remark where
  time : Instant
  author : String
  message : String
  deriving DecidableEq, Repr

/-- A log: its text, the spans of its distinct author names in order, and its lines.  A log that
is not valid stands for the answer that there is no such log. -/
structure Log where
  id : LogId
  data : String
  valid : Bool
  names : Array Span
  lines : Array LineSpan
  deriving Repr

namespace Log

/-- The log that stands for "there is no such log". -/
def missing (id : LogId) (data : String) : Log :=
  ⟨id, data, false, #[], #[]⟩

/-- The text of a span. -/
def textOf (log : Log) (s : Span) : String :=
  s.textIn log.data

/-- Drop the pairs at the front that have a given key, and of later neighbours with one key all
but the first. -/
def dropRepeatsOf {κ α : Type} [DecidableEq κ] (key : κ) : List (κ × α) → List (κ × α)
  | [] => []
  | a :: rest => if a.1 = key then dropRepeatsOf key rest else a :: dropRepeatsOf a.1 rest

/-- Of neighbours with one key, keep the first. -/
def dropRepeats {κ α : Type} [DecidableEq κ] : List (κ × α) → List (κ × α)
  | [] => []
  | a :: rest => a :: dropRepeatsOf a.1 rest

/-- The spans of the distinct authors of some lines, in the byte order of the names; of several
spans with one name the first. -/
def distinctAuthors (data : String) (lines : List LineSpan) : List Span :=
  let keyed := lines.map fun l => (utf8 (l.author.textIn data), l.author)
  (dropRepeats (keyed.mergeSort fun a b => decide (a.1 ≤ b.1))).map Prod.snd

/-- The valid log with the given text and lines. -/
def ofLines (id : LogId) (data : String) (lines : List LineSpan) : Log :=
  ⟨id, data, true, (distinctAuthors data lines).toArray, lines.toArray⟩

/-- The texts of the names, in order. -/
def nameTexts (log : Log) : List String :=
  log.names.toList.map log.textOf

/-- What a line of the log says. -/
def remarkAt (log : Log) (l : LineSpan) : Remark :=
  ⟨l.time, log.textOf l.author, log.textOf l.message⟩

/-- What the lines of the log say, in order. -/
def remarks (log : Log) : List Remark :=
  log.lines.toList.map log.remarkAt

/-- Copy a line out of its log. -/
def lineAt (log : Log) (l : LineSpan) : Line :=
  .make l.time (log.textOf l.author) (log.textOf l.message)

/-- Find a key among the increasing keys of the positions `low`, …, `high - 1` by halving. -/
def search (key : Nat → List UInt8) (target : List UInt8) (low high : Nat) : Option Nat :=
  if h : low < high then
    let middle := (low + high) / 2
    let k := key middle
    if k = target then some middle
    else if k < target then search key target (middle + 1) high
    else search key target low middle
  else none
termination_by high - low

/-- Where a name stands among the log's names. -/
def nameIndex? (log : Log) (name : String) : Option Nat :=
  search (fun i => utf8 (log.textOf (log.names.getD i ⟨0, 0⟩))) (utf8 name) 0 log.names.size

/-- Two logs say the same: identity, validity, names and what the lines say agree. -/
def same (a b : Log) : Bool :=
  a.id == b.id && a.valid == b.valid && a.nameTexts == b.nameTexts && a.remarks == b.remarks

end Log

end Scrollback
