/-
The date and time at the head of a chat line: `YYYY-MM-DD hh:mm:ss`.

Reading is lenient where the services are: white space may stand before every number, the space
between date and time may be any white space or none, and numbers may have fewer digits.  A year
with a sign may have any number of digits, one without at most four.  Second 60 is a leap second.
-/
import Scrollback.Text.Blank
import Scrollback.Time.Instant

namespace Scrollback.Stamp

/-- Take up to `limit` digits from the front, at least one: their value and the rest. -/
def number (limit : Nat) (cs : List Char) : Option (Nat × List Char) :=
  let found := (cs.take limit).takeWhile isDigit
  if found.isEmpty then none else some (value found, cs.drop found.length)

/-- A year: up to four digits, or a sign and any number of them. -/
def year (cs : List Char) : Option (Int × List Char) :=
  match trimStart cs with
  | '-' :: rest => (number rest.length rest).map fun (n, rest) => (-(n : Int), rest)
  | '+' :: rest => (number rest.length rest).map fun (n, rest) => ((n : Int), rest)
  | rest => (number 4 rest).map fun (n, rest) => ((n : Int), rest)

/-- A number of one or two digits. -/
def field (cs : List Char) : Option (Nat × List Char) :=
  number 2 (trimStart cs)

/-- A given character. -/
def mark (c : Char) : List Char → Option (List Char)
  | [] => none
  | d :: rest => if c = d then some rest else none

/-- The instant of a date and a time of the day, if both exist. -/
def instant? (year : Int) (month day hour minute second : Nat) : Option Instant :=
  if hour < 24 ∧ minute < 60 ∧ second ≤ 60 then
    (Date.make? year month day).map fun d => Instant.ofClock d hour minute second
  else none

/-- Read a date and time from the front of a text. -/
def read (cs : List Char) : Option (Instant × List Char) := do
  let (y, cs) ← year cs
  let cs ← mark '-' cs
  let (m, cs) ← field cs
  let cs ← mark '-' cs
  let (d, cs) ← field cs
  let (hour, cs) ← field cs
  let cs ← mark ':' cs
  let (minute, cs) ← field cs
  let cs ← mark ':' cs
  let (second, cs) ← field cs
  let t ← instant? y m d hour minute second
  pure (t, cs)

end Scrollback.Stamp
