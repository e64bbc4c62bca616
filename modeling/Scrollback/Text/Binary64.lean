/-
Floating-point numbers of 53 binary digits.  Every finite one is a multiple of the least of them,
`2 ^ (-1074)`, so a number is kept as that multiple, with a sign of its own because there are two
zeros.  All computation is with natural numbers.

A decimal is read as the nearest number, of two as near the one whose last binary digit is even; a
number is written with the fewest decimal digits that are read as this number again, of these the
nearest, of two as near the greater, and never with an exponent.
-/
import Scrollback.Text.Decimal

namespace Scrollback

/-- A floating-point number; a finite one is `units` times `2 ^ (-1074)`. -/
inductive Binary64 where
  | finite (negative : Bool) (units : Nat)
  | infinite (negative : Bool)
  | nan
  deriving DecidableEq, Repr

namespace Binary64

/-- The number one, in units. -/
def one : Nat := 1 <<< 1074

/-- Beyond the greatest finite number, in units. -/
def bound : Nat := one <<< 1024

/-- How far apart numbers of this size are, as an exponent of two. -/
def spacing (units : Nat) : Nat :=
  units.log2 - 52

/-! ### Reading -/

/-- The nearest integer to a quotient, an even one if two are as near. -/
def nearest (num den : Nat) : Nat :=
  let q := num / den
  let twice := 2 * (num % den)
  if twice < den then q
  else if den < twice then q + 1
  else q + q % 2

/-- The number nearest to a quotient of units. -/
def ofQuotient (negative : Bool) (num den : Nat) : Binary64 :=
  let step := 1 <<< spacing (num / den)
  let units := nearest num (den * step) * step
  if units < bound then .finite negative units else .infinite negative

/-- Decimal exponents beyond this one make everything infinite or zero. -/
def maxScale : Int := 400

/-- The number nearest to `mantissa * 10 ^ exponent`. -/
def ofDecimal (negative : Bool) (mantissa : Nat) (exponent : Int) : Binary64 :=
  let size : Int := (digits mantissa).length + exponent
  if mantissa = 0 || size < -maxScale then .finite negative 0
  else if maxScale < size then .infinite negative
  else if 0 ≤ exponent then ofQuotient negative (mantissa * Nat.pow 10 exponent.toNat * one) 1
  else ofQuotient negative (mantissa * one) (Nat.pow 10 (-exponent).toNat)

/-- Read a decimal fraction: digits with at most one point among them, and an exponent if there is
one. -/
def ofText? (cs : List Char) : Option Binary64 := do
  let (negative, cs) := match cs with
    | '-' :: rest => (true, rest)
    | '+' :: rest => (false, rest)
    | cs => (false, cs)
  let whole := cs.takeWhile isDigit
  let cs := cs.drop whole.length
  let (fraction, cs) := match cs with
    | '.' :: rest => (rest.takeWhile isDigit, rest.dropWhile isDigit)
    | cs => ([], cs)
  if whole.isEmpty && fraction.isEmpty then none
  let mantissa := value (whole ++ fraction)
  let places : Int := fraction.length
  match cs with
  | [] => some (ofDecimal negative mantissa (-places))
  | e :: rest =>
    if e ≠ 'e' ∧ e ≠ 'E' then none
    let (down, power) := match rest with
      | '-' :: rest => (true, rest)
      | '+' :: rest => (false, rest)
      | rest => (false, rest)
    if power.isEmpty || !power.all isDigit then none
    let power : Int := if down then -(value power : Int) else value power
    some (ofDecimal negative mantissa (power - places))

/-! ### Writing -/

/-- Four times the bounds of what is read as a number: half way to the numbers next to it. -/
def bounds (units : Nat) : Nat × Nat :=
  let step := 1 <<< spacing units
  let below := if units = step <<< 52 ∧ 1 < step then step else 2 * step
  (4 * units - below, 4 * units + 2 * step)

/-- `digits * 10 ^ exponent` is read as the number of so many units. -/
def readsAs (units digits : Nat) (exponent : Int) : Bool :=
  let (low, high) := bounds units
  let num := 4 * digits * Nat.pow 10 exponent.toNat * one
  let den := Nat.pow 10 (-exponent).toNat
  if units >>> spacing units % 2 = 0 then low * den ≤ num && num ≤ high * den
  else low * den < num && num < high * den

/-- The place of the first decimal digit of a number that is not zero. -/
def magnitude (units : Nat) : Int :=
  let guess : Int := (digits units).length - (digits one).length
  let num := units * Nat.pow 10 (-guess).toNat
  let den := one * Nat.pow 10 guess.toNat
  if den ≤ num then guess else guess - 1

/-- The digits next to a number at a place, if they are read as this number, the nearer first. -/
def candidate? (units : Nat) (exponent : Int) : Option Nat :=
  let num := units * Nat.pow 10 (-exponent).toNat
  let den := one * Nat.pow 10 exponent.toNat
  let low := num / den
  let near := if 2 * (num % den) < den then [low, low + 1] else [low + 1, low]
  near.find? fun d => readsAs units d exponent

/-- The fewest digits that are read as a number, and their exponent; at most so many further ones
are tried. -/
def shortest (units : Nat) (exponent : Int) : Nat → Nat × Int
  | 0 => ((candidate? units exponent).getD 0, exponent)
  | more + 1 =>
    match candidate? units exponent with
    | some d => if d % 10 = 0 then (d / 10, exponent + 1) else (d, exponent)
    | none => shortest units (exponent - 1) more

/-- `digits * 10 ^ exponent`, written out. -/
def positional (ds : List Char) (exponent : Int) : List Char :=
  if 0 ≤ exponent then ds ++ List.replicate exponent.toNat '0'
  else
    let places := (-exponent).toNat
    let ds := List.replicate (places + 1 - ds.length) '0' ++ ds
    ds.take (ds.length - places) ++ '.' :: ds.drop (ds.length - places)

/-- A number as text. -/
def text : Binary64 → String
  | .nan => "NaN"
  | .infinite negative => if negative then "-inf" else "inf"
  | .finite negative units =>
    let (d, exponent) := if units = 0 then (0, 0) else shortest units (magnitude units) 16
    String.ofList ((if negative then ['-'] else []) ++ positional (digits d) exponent)

/-- A number as text that shows that it is no integer: with a point. -/
def pointedText (x : Binary64) : String :=
  match x with
  | .finite .. => if x.text.contains '.' then x.text else x.text ++ ".0"
  | _ => x.text

/-- The nearest natural number up to `most`, a half going up. -/
def toNat (most : Nat) : Binary64 → Nat
  | .nan | .infinite true | .finite true _ => 0
  | .infinite false => most
  | .finite false units => min ((2 * units + one) / (2 * one)) most

end Binary64

end Scrollback
