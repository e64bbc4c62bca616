/-
Text as bytes.  A string is its UTF-8 encoding, and everything that is measured or stored is
measured in bytes: `utf8` lists them, `bytesOf` is the same list for characters, and
`utf8Size` its length.

`lossyText` reads bytes that need not be UTF-8 at all: each maximal ill-formed piece becomes
one replacement character, so every byte string has a text.
-/
import Scrollback.Total

namespace Scrollback

/-- The bytes of a string, in order. -/
def utf8 (s : String) : List UInt8 :=
  s.toUTF8.data.toList

/-- The bytes of a list of characters, in order. -/
def bytesOf (cs : List Char) : List UInt8 :=
  cs.flatMap String.utf8EncodeChar

/-- How many bytes a list of characters takes. -/
def utf8Size (cs : List Char) : Nat :=
  total (cs.map Char.utf8Size)

@[simp] theorem utf8Size_nil : utf8Size [] = 0 := rfl

@[simp] theorem utf8Size_cons (c : Char) (cs : List Char) :
    utf8Size (c :: cs) = c.utf8Size + utf8Size cs := by
  simp [utf8Size]

@[simp] theorem utf8Size_append (a b : List Char) :
    utf8Size (a ++ b) = utf8Size a + utf8Size b := by
  simp [utf8Size]

/-- The text of a byte string that is UTF-8. -/
def text? (bytes : List UInt8) : Option String :=
  String.fromUTF8? bytes.toByteArray

/-! ### Lossy reading -/

namespace Lossy

/-- A continuation byte. -/
def isTail (b : UInt8) : Bool :=
  0x80 ≤ b && b ≤ 0xBF

/-- What a lead byte announces: how many bytes follow it, and the range of the first of them.
The narrower ranges keep out overlong forms, surrogates and everything above `10FFFF`. -/
def announced (b : UInt8) : Option (Nat × UInt8 × UInt8) :=
  if 0xC2 ≤ b && b ≤ 0xDF then some (1, 0x80, 0xBF)
  else if b == 0xE0 then some (2, 0xA0, 0xBF)
  else if b == 0xED then some (2, 0x80, 0x9F)
  else if 0xE1 ≤ b && b ≤ 0xEF then some (2, 0x80, 0xBF)
  else if b == 0xF0 then some (3, 0x90, 0xBF)
  else if 0xF1 ≤ b && b ≤ 0xF3 then some (3, 0x80, 0xBF)
  else if b == 0xF4 then some (3, 0x80, 0x8F)
  else none

/-- Take up to `n` continuation bytes: the ones found, how many are missing, and the rest. -/
def takeTail : Nat → List UInt8 → List UInt8 × Nat × List UInt8
  | 0, rest => ([], 0, rest)
  | n + 1, [] => ([], n + 1, [])
  | n + 1, b :: rest =>
    if isTail b then
      let found := takeTail n rest
      (b :: found.1, found.2)
    else ([], n + 1, b :: rest)

theorem length_takeTail (n : Nat) (bytes : List UInt8) :
    (takeTail n bytes).2.2.length ≤ bytes.length := by
  induction bytes generalizing n with
  | nil => cases n <;> simp [takeTail]
  | cons b rest ih =>
    cases n with
    | zero => simp [takeTail]
    | succ n =>
      have := ih n
      simp only [takeTail]
      split
      · exact Nat.le_succ_of_le this
      · exact Nat.le_refl _

/-- The scalar value spelled by a lead byte and its `n` continuation bytes. -/
def scalar (lead : UInt8) (n : Nat) (tail : List UInt8) : Char :=
  let mask : Nat := if n == 1 then 0x1F else if n == 2 then 0x0F else 0x07
  Char.ofNat (tail.foldl (fun acc b => acc * 64 + b.toNat % 64) (lead.toNat % (mask + 1)))

/-- The character put in place of an ill-formed piece. -/
def replacement : Char := '\ufffd'

end Lossy

open Lossy in
/-- The characters of a byte string; a maximal prefix of a well-formed sequence that goes no
further, and any other stray byte, reads as one replacement character. -/
def lossyChars : List UInt8 → List Char
  | [] => []
  | b :: rest =>
    if b < 0x80 then Char.ofNat b.toNat :: lossyChars rest
    else
      match announced b with
      | none => replacement :: lossyChars rest
      | some (n, low, high) =>
        match rest with
        | [] => [replacement]
        | first :: more =>
          if low ≤ first && first ≤ high then
            let found := takeTail (n - 1) more
            let char := if found.2.1 == 0 then scalar b n (first :: found.1) else replacement
            char :: lossyChars found.2.2
          else replacement :: lossyChars (first :: more)
termination_by bytes => bytes.length
decreasing_by
  · exact Nat.lt_succ_self _
  · exact Nat.lt_succ_self _
  · exact Nat.lt_succ_of_lt (Nat.lt_succ_of_le (length_takeTail _ _))
  · exact Nat.lt_succ_self _

/-- The text of a byte string, ill-formed pieces replaced. -/
def lossyText (bytes : List UInt8) : String :=
  String.ofList (lossyChars bytes)

end Scrollback
