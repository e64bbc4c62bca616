/-
Writing JSON, on one line without blanks, or indented by two blanks a level.  Only what has to be
escaped in strings is.
-/
import Scrollback.Json.Basic
import Scrollback.Text.Decimal

namespace Scrollback.JsonValue

/-- The bytes of some characters. -/
def plain (cs : List Char) : List UInt8 := bytesOf cs

/-- How a byte of a string is written. -/
def escaped (b : UInt8) : List UInt8 :=
  if b = 0x22 then plain ['\\', '"']
  else if b = 0x5C then plain ['\\', '\\']
  else if b = 0x08 then plain ['\\', 'b']
  else if b = 0x0C then plain ['\\', 'f']
  else if b = 0x0A then plain ['\\', 'n']
  else if b = 0x0D then plain ['\\', 'r']
  else if b = 0x09 then plain ['\\', 't']
  else if b < 0x20 then plain (['\\', 'u', '0', '0'] ++ hexByte b)
  else [b]

/-- A string in quotes. -/
def quote (bytes : List UInt8) : List UInt8 :=
  0x22 :: bytes.flatMap escaped ++ [0x22]

/-- A number that is written as an integer. -/
def numeral (n : JsonNumber) : List UInt8 :=
  plain ((if n.negative then ['-'] else []) ++ digits n.mantissa)

/-- A value that has no parts. -/
def scalar : JsonValue → List UInt8
  | .null => plain ['n', 'u', 'l', 'l']
  | .bool true => plain ['t', 'r', 'u', 'e']
  | .bool false => plain ['f', 'a', 'l', 's', 'e']
  | .number n => numeral n
  | .string bytes => quote bytes
  | _ => []

/-- A line break and the blanks of a level. -/
def newline (level : Nat) : List UInt8 :=
  0x0A :: List.replicate (2 * level) 0x20

mutual

/-- A value; `breakTo level` is what stands between its parts besides commas, and `colon` what
stands between a name and its value. -/
def write (breakTo : Nat → List UInt8) (colon : List UInt8) (level : Nat) :
    JsonValue → List UInt8
  | .list [] => plain ['[', ']']
  | .list (x :: xs) =>
    plain ['['] ++ breakTo (level + 1) ++ write breakTo colon (level + 1) x ++
      writeItems breakTo colon (level + 1) xs ++ breakTo level ++ plain [']']
  | .object [] => plain ['\x7b', '\x7d']
  | .object ((name, x) :: ms) =>
    plain ['\x7b'] ++ breakTo (level + 1) ++ quote name ++ colon ++
      write breakTo colon (level + 1) x ++
      writeMembers breakTo colon (level + 1) ms ++ breakTo level ++ plain ['\x7d']
  | .null => scalar .null
  | .bool b => scalar (.bool b)
  | .number n => scalar (.number n)
  | .string bytes => scalar (.string bytes)

/-- The items after the first. -/
def writeItems (breakTo : Nat → List UInt8) (colon : List UInt8) (level : Nat) :
    List JsonValue → List UInt8
  | [] => []
  | x :: xs =>
    plain [','] ++ breakTo level ++ write breakTo colon level x ++
      writeItems breakTo colon level xs

/-- The members after the first. -/
def writeMembers (breakTo : Nat → List UInt8) (colon : List UInt8) (level : Nat) :
    List (List UInt8 × JsonValue) → List UInt8
  | [] => []
  | (name, x) :: ms =>
    plain [','] ++ breakTo level ++ quote name ++ colon ++ write breakTo colon level x ++
      writeMembers breakTo colon level ms

end

/-- The bytes of a value on one line. -/
def compact (v : JsonValue) : List UInt8 :=
  write (fun _ => []) (plain [':']) 0 v

/-- The bytes of a value, every part on a line of its own. -/
def indented (v : JsonValue) : List UInt8 :=
  write newline (plain [':', ' ']) 0 v

end Scrollback.JsonValue
