/-
Numbers in plain decimal.  `digits` writes a natural number, `padded` fills up with zeros in
front, and `value` reads digits back; a signed number is written with a minus sign only.

`wordOfDigits` is the strict reader for unsigned words: one or more ASCII digits, below a bound.
-/

namespace Scrollback

/-- The decimal digits of a natural number, without leading zeros. -/
def digits (n : Nat) : List Char :=
  Nat.toDigits 10 n

/-- The number that a list of decimal digits denotes. -/
def value (cs : List Char) : Nat :=
  Nat.ofDigitChars 10 cs 0

@[simp] theorem value_digits (n : Nat) : value (digits n) = n :=
  Nat.ofDigitChars_ten_toDigits

/-- At least `width` digits, zeros in front. -/
def padded (width n : Nat) : List Char :=
  List.replicate (width - (digits n).length) '0' ++ digits n

/-- A natural number as text. -/
def decimal (n : Nat) : String :=
  String.ofList (digits n)

/-- An integer as text. -/
def signedDecimal : Int → String
  | .ofNat n => decimal n
  | .negSucc n => String.ofList ('-' :: digits (n + 1))

/-- An ASCII digit. -/
def isDigit (c : Char) : Bool :=
  '0' ≤ c && c ≤ '9'

/-- Read a non-empty run of ASCII digits whose value is below `bound`. -/
def wordOfDigits (bound : Nat) (cs : List Char) : Option Nat :=
  if cs.isEmpty || !cs.all isDigit then none
  else if value cs < bound then some (value cs) else none

/-- The two lower-case hexadecimal digits of a byte. -/
def hexByte (b : UInt8) : List Char :=
  [Nat.digitChar (b.toNat / 16), Nat.digitChar (b.toNat % 16)]

/-- The value of a hexadecimal digit of either case. -/
def hexValue? (c : Char) : Option Nat :=
  if '0' ≤ c && c ≤ '9' then some (c.toNat - 48)
  else if 'a' ≤ c && c ≤ 'f' then some (c.toNat - 87)
  else if 'A' ≤ c && c ≤ 'F' then some (c.toNat - 55)
  else none

end Scrollback
