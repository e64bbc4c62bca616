/-
The words of TOML that stand without quotes: truth values, numbers, dates and times.  Digits may be
grouped by single underscores.  A date or a time is a text here, spelled in the one way in which it
would be written.
-/
import Scrollback.Settings.Value

namespace Scrollback.Toml

/-! ### Numbers -/

/-- Digits, grouped by single underscores between them. -/
def digitsOf? (isDigit : Char → Bool) (cs : List Char) : Option (List Char) :=
  let groups := cs.splitOn '_'
  if groups.all fun g => !g.isEmpty && g.all isDigit then some groups.flatten else none

/-- A sign in front. -/
def signOf : List Char → Bool × List Char
  | '-' :: rest => (true, rest)
  | '+' :: rest => (false, rest)
  | cs => (false, cs)

/-- Decimal digits without needless zeros in front. -/
def wholeOf? (cs : List Char) : Option (List Char) := do
  let ds ← digitsOf? isDigit cs
  if ds.length = 1 || ds.head? ≠ some '0' then some ds else none

/-- The number of some digits to a base. -/
def valueOf (base : Nat) (ds : List Char) : Nat :=
  ds.foldl (fun n c => n * base + (hexValue? c).getD 0) 0

/-- Digits to a base that is a power of two. -/
def based? (base : Nat) (cs : List Char) : Option Int :=
  (digitsOf? (fun c => (hexValue? c).any (· < base)) cs).map fun ds => valueOf base ds

/-- An integer. -/
def integer? : List Char → Option Int
  | '0' :: 'x' :: cs => based? 16 cs
  | '0' :: 'o' :: cs => based? 8 cs
  | '0' :: 'b' :: cs => based? 2 cs
  | cs =>
    let (negative, cs) := signOf cs
    (wholeOf? cs).map fun ds => if negative then -(value ds : Int) else value ds

/-- An exponent, which may have zeros in front. -/
def exponentOf? (cs : List Char) : Option Int :=
  let (negative, cs) := signOf cs
  (digitsOf? isDigit cs).map fun ds => if negative then -(value ds : Int) else value ds

/-- A number with a fraction or an exponent; one that is too great is refused. -/
def real? (cs : List Char) : Option Binary64 := do
  let (negative, cs) := signOf cs
  if cs = ['i', 'n', 'f'] then return .infinite negative
  if cs = ['n', 'a', 'n'] then return .nan
  let isExponent (c : Char) : Bool := c == 'e' || c == 'E'
  let plain := cs.takeWhile fun c => !isExponent c
  let whole := plain.takeWhile (· != '.')
  if plain.length = whole.length ∧ plain.length = cs.length then none
  let wholeDigits ← wholeOf? whole
  let fraction ← if plain.length = whole.length then some [] else
    digitsOf? isDigit (plain.drop (whole.length + 1))
  let exponent ← if plain.length = cs.length then some 0 else
    exponentOf? (cs.drop (plain.length + 1))
  match Binary64.ofDecimal negative (value (wholeDigits ++ fraction)) (exponent - fraction.length) with
  | .finite negative units => some (.finite negative units)
  | _ => none

/-! ### Dates and times -/

/-- A number of a given count of digits, between two bounds. -/
def fieldOf? (count low high : Nat) (cs : List Char) : Option Nat :=
  let n := value cs
  if cs.length = count ∧ cs.all isDigit ∧ low ≤ n ∧ n ≤ high then some n else none

/-- The number of days in a month. -/
def daysIn (year month : Nat) : Nat :=
  if month = 2 then if year % 4 = 0 ∧ (year % 100 ≠ 0 ∨ year % 400 = 0) then 29 else 28
  else if month = 4 ∨ month = 6 ∨ month = 9 ∨ month = 11 then 30
  else 31

/-- A date. -/
def dateOf? (cs : List Char) : Option (List Char) :=
  match cs.splitOn '-' with
  | [y, m, d] => do
    let year ← fieldOf? 4 0 9999 y
    let month ← fieldOf? 2 1 12 m
    let _ ← fieldOf? 2 1 (daysIn year month) d
    some cs
  | _ => none

/-- A fraction of a second, to the ninth place and without needless zeros; its point is left out
with it if nothing remains. -/
def fractionOf? (cs : List Char) : Option (List Char) :=
  if cs.isEmpty || !cs.all isDigit then none
  else
    let kept := ((cs.take 9).reverse.dropWhile (· == '0')).reverse
    some (if kept.isEmpty then [] else '.' :: kept)

/-- A time of the day; seconds may be left out, and second 60 is a leap second. -/
def timeOf? (cs : List Char) : Option (List Char) :=
  let whole := cs.takeWhile (· != '.')
  let hourMinute? (h m : List Char) : Option Unit := do
    let _ ← fieldOf? 2 0 23 h
    let _ ← fieldOf? 2 0 59 m
    pure ()
  match whole.splitOn ':' with
  | [h, m] => do
    hourMinute? h m
    if whole.length = cs.length then some (cs ++ [':', '0', '0']) else none
  | [h, m, s] => do
    hourMinute? h m
    let _ ← fieldOf? 2 0 60 s
    if whole.length = cs.length then some cs
    else (fractionOf? (cs.drop (whole.length + 1))).map fun f => whole ++ f
  | _ => none

/-- How far a time is ahead of universal time. -/
def offsetOf? : List Char → Option (List Char)
  | [] => some []
  | [c] => if c = 'Z' ∨ c = 'z' then some ['Z'] else none
  | sign :: cs =>
    match cs.splitOn ':' with
    | [h, m] => do
      let hours ← fieldOf? 2 0 23 h
      let minutes ← fieldOf? 2 0 59 m
      if sign = '+' ∨ (sign = '-' ∧ hours + minutes = 0) then some ('+' :: cs)
      else if sign = '-' then some ('-' :: cs)
      else none
    | _ => none

/-- A date, a time, or both with an offset or without. -/
def moment? (cs : List Char) : Option (List Char) :=
  match cs.drop 10 with
  | [] => dateOf? cs <|> timeOf? cs
  | sep :: rest =>
    if sep = 'T' ∨ sep = 't' ∨ sep = ' ' then do
      let date ← dateOf? (cs.take 10)
      let clock := rest.takeWhile fun c => isDigit c || c == ':' || c == '.'
      let time ← timeOf? clock
      let offset ← offsetOf? (rest.drop clock.length)
      some (date ++ 'T' :: time ++ offset)
    else timeOf? cs

/-! ### Words -/

/-- What a word without quotes stands for. -/
def scalar? (cs : List Char) : Option Setting :=
  if cs = ['t', 'r', 'u', 'e'] then some (.bool true)
  else if cs = ['f', 'a', 'l', 's', 'e'] then some (.bool false)
  else
    match integer? cs with
    | some i => Setting.integer? i
    | none =>
      match real? cs with
      | some x => some (.real x)
      | none => (moment? cs).map fun t => .text (String.ofList t)

end Scrollback.Toml
