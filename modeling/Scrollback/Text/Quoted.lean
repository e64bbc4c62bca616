/-
Text in double quotes, as messages show it: a text that a reader could not see as it is (controls,
odd spaces, unassigned code points, combining marks) is spelled by its code point.
-/
import Scrollback.Text.Decimal
import Scrollback.Unicode.Binary

namespace Scrollback.Quoted

open Unicode in
/-- Characters without a visible form of their own: controls, format characters, private and
unassigned code points, every separator but the plain space, and marks that extend the character
before them. -/
def hidden : CharSet :=
  ((Category.sets [.control, .format, .privateUse, .unassigned, .lineSeparator,
    .paragraphSeparator, .spaceSeparator]).diff (CharSet.single ' ')).union
    Binary.graphemeExtend.set

/-- A character spelled by its code point. -/
def byCode (c : Char) : List Char :=
  ['\\', 'u', '\x7b'] ++ Nat.toDigits 16 c.toNat ++ ['\x7d']

/-- How a character stands between the quotes. -/
def escape (c : Char) : List Char :=
  if c = '"' then ['\\', '"']
  else if c = '\\' then ['\\', '\\']
  else if c = '\n' then ['\\', 'n']
  else if c = '\r' then ['\\', 'r']
  else if c = '\t' then ['\\', 't']
  else if c.toNat = 0 then ['\\', '0']
  else if ' ' ≤ c && c ≤ '~' then [c]
  else if hidden.has c then byCode c
  else [c]

end Scrollback.Quoted

namespace Scrollback

/-- A text in double quotes. -/
def quoted (s : String) : String :=
  String.ofList ('"' :: s.toList.flatMap Quoted.escape ++ ['"'])

end Scrollback
