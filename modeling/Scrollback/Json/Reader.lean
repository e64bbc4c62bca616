/-
Reading JSON from bytes, strictly: one value with white space around it and nothing else.

Escapes of the form `\u` that make a surrogate pair spell one character; one that does not pair up
is kept as three bytes that are no UTF-8, so that the string has no text.
-/
import Scrollback.Json.Basic
import Scrollback.Text.Decimal

namespace Scrollback.Json

/-- A reader takes something from the front of the bytes, or fails. -/
abbrev Reader (α : Type) := List UInt8 → Option (α × List UInt8)

/-- The byte of an ASCII character. -/
def ascii (c : Char) : UInt8 := UInt8.ofNat c.toNat

/-- Drop white space. -/
def skipSpace (bytes : List UInt8) : List UInt8 :=
  bytes.dropWhile fun b => b == ascii ' ' || b == ascii '\t' || b == ascii '\n' || b == ascii '\r'

/-- Read a given byte. -/
def expect (c : Char) : List UInt8 → Option (List UInt8)
  | [] => none
  | b :: rest => if b = ascii c then some rest else none

/-- Read a given word. -/
def word : List Char → List UInt8 → Option (List UInt8)
  | [], bytes => some bytes
  | c :: cs, bytes => expect c bytes >>= word cs

/-! ### Strings -/

/-- The value of a hexadecimal digit. -/
def hexDigit? (b : UInt8) : Option Nat :=
  hexValue? (Char.ofNat b.toNat)

/-- The number of four hexadecimal digits. -/
def hexFour : Reader Nat
  | a :: b :: c :: d :: rest => do
    pure (((← hexDigit? a) * 16 + (← hexDigit? b)) * 256 + (← hexDigit? c) * 16 + (← hexDigit? d),
      rest)
  | _ => none

/-- The bytes of a code point below `10000`, surrogates included. -/
def spell (n : Nat) : List UInt8 :=
  if n < 0x80 then [UInt8.ofNat n]
  else if n < 0x800 then [UInt8.ofNat (0xC0 + n / 64), UInt8.ofNat (0x80 + n % 64)]
  else [UInt8.ofNat (0xE0 + n / 4096), UInt8.ofNat (0x80 + n / 64 % 64), UInt8.ofNat (0x80 + n % 64)]

/-- The low half of a surrogate pair, if it follows. -/
def lowHalf? : Reader Nat
  | b :: u :: rest =>
    if b = ascii '\\' ∧ u = ascii 'u' then do
      let (n, rest) ← hexFour rest
      if 0xDC00 ≤ n ∧ n ≤ 0xDFFF then some (n, rest) else none
    else none
  | _ => none

/-- The bytes that an escape by number spells, its `\u` being read. -/
def numbered : Reader (List UInt8) := fun bytes => do
  let (n, rest) ← hexFour bytes
  if 0xD800 ≤ n ∧ n ≤ 0xDBFF then
    match lowHalf? rest with
    | some (low, rest) =>
      pure (String.utf8EncodeChar (Char.ofNat (0x10000 + (n - 0xD800) * 1024 + (low - 0xDC00))), rest)
    -- a high half by itself
    | none => pure (spell n, rest)
  else pure (spell n, rest)

/-- The byte that a one-letter escape spells. -/
def letter? (b : UInt8) : Option UInt8 :=
  if b = ascii '"' ∨ b = ascii '\\' ∨ b = ascii '/' then some b
  else if b = ascii 'b' then some 0x08
  else if b = ascii 'f' then some 0x0C
  else if b = ascii 'n' then some 0x0A
  else if b = ascii 'r' then some 0x0D
  else if b = ascii 't' then some 0x09
  else none

/-- The rest of a string after its opening quote; `done` holds the bytes so far, the latest
first.  Controls must be escaped. -/
def string : Nat → (done : List UInt8) → Reader (List UInt8)
  | 0, _, _ => none
  | _ + 1, _, [] => none
  | fuel + 1, done, b :: rest =>
    if b = ascii '"' then some (done.reverse, rest)
    else if b = ascii '\\' then
      match rest with
      | [] => none
      | e :: rest =>
        if e = ascii 'u' then do
          let (spelled, rest) ← numbered rest
          string fuel (spelled.reverse ++ done) rest
        else do string fuel ((← letter? e) :: done) rest
    else if b < 0x20 then none
    else string fuel (b :: done) rest

/-! ### Numbers -/

/-- A decimal digit. -/
def isDigit (b : UInt8) : Bool :=
  ascii '0' ≤ b && b ≤ ascii '9'

/-- The number that some digits denote. -/
def valueOf (bytes : List UInt8) : Nat :=
  bytes.foldl (fun n b => n * 10 + (b.toNat - 48)) 0

/-- One or more digits. -/
def digitRun : Reader (List UInt8) := fun bytes =>
  let found := bytes.takeWhile isDigit
  if found.isEmpty then none else some (found, bytes.drop found.length)

/-- The digits before the point; a zero stands alone. -/
def wholePart : Reader (List UInt8)
  | [] => none
  | b :: rest => if b = ascii '0' then some ([b], rest) else digitRun (b :: rest)

/-- A sign. -/
def minus : List UInt8 → Bool × List UInt8
  | [] => (false, [])
  | b :: rest => if b = ascii '-' then (true, rest) else (false, b :: rest)

/-- The digits after a point, if there is one. -/
def fractionPart : Reader (Option (List UInt8)) := fun bytes =>
  match expect '.' bytes with
  | none => some (none, bytes)
  | some rest => (digitRun rest).map fun (ds, rest) => (some ds, rest)

/-- The exponent, if there is one. -/
def exponentPart : Reader (Option Int) := fun bytes =>
  match expect 'e' bytes <|> expect 'E' bytes with
  | none => some (none, bytes)
  | some rest =>
    let (negative, rest) := match expect '+' rest with
      | some rest => (false, rest)
      | none => minus rest
    (digitRun rest).map fun (ds, rest) =>
      (some (if negative then -valueOf ds else valueOf ds), rest)

/-- A number. -/
def number : Reader JsonNumber := fun bytes => do
  let (negative, rest) := minus bytes
  let (whole, rest) ← wholePart rest
  let (fraction, rest) ← fractionPart rest
  let (exponent, rest) ← exponentPart rest
  pure (⟨negative, valueOf (whole ++ fraction.getD []), (fraction.getD []).length,
    exponent.getD 0, fraction.isNone && exponent.isNone⟩, rest)

/-! ### Values -/

mutual

/-- A value at the front of the bytes. -/
def value : Nat → Reader JsonValue
  | 0, _ => none
  | _ + 1, [] => none
  | fuel + 1, b :: rest =>
    if b = ascii '"' then (string fuel [] rest).map fun (s, rest) => (.string s, rest)
    else if b = ascii '[' then
      match expect ']' (skipSpace rest) with
      | some rest => some (.list [], rest)
      | none => (items fuel (skipSpace rest)).map fun (xs, rest) => (.list xs, rest)
    else if b = ascii '\x7b' then
      match expect '\x7d' (skipSpace rest) with
      | some rest => some (.object [], rest)
      | none => (members fuel (skipSpace rest)).map fun (ms, rest) => (.object ms, rest)
    else if b = ascii 'n' then (word ['u', 'l', 'l'] rest).map fun rest => (.null, rest)
    else if b = ascii 't' then (word ['r', 'u', 'e'] rest).map fun rest => (.bool true, rest)
    else if b = ascii 'f' then (word ['a', 'l', 's', 'e'] rest).map fun rest => (.bool false, rest)
    else (number (b :: rest)).map fun (n, rest) => (.number n, rest)

/-- The items of a list, at least one, with its closing bracket. -/
def items : Nat → Reader (List JsonValue)
  | 0, _ => none
  | fuel + 1, bytes => do
    let (x, rest) ← value fuel bytes
    let rest := skipSpace rest
    match expect ']' rest with
    | some rest => pure ([x], rest)
    | none =>
      let rest ← expect ',' rest
      let (xs, rest) ← items fuel (skipSpace rest)
      pure (x :: xs, rest)

/-- The members of an object, at least one, with its closing brace. -/
def members : Nat → Reader (List (List UInt8 × JsonValue))
  | 0, _ => none
  | fuel + 1, bytes => do
    let rest ← expect '"' bytes
    let (name, rest) ← string fuel [] rest
    let rest ← expect ':' (skipSpace rest)
    let (x, rest) ← value fuel (skipSpace rest)
    let rest := skipSpace rest
    match expect '\x7d' rest with
    | some rest => pure ([(name, x)], rest)
    | none =>
      let rest ← expect ',' rest
      let (ms, rest) ← members fuel (skipSpace rest)
      pure ((name, x) :: ms, rest)

end

end Scrollback.Json

namespace Scrollback

/-- The value that some bytes spell. -/
def JsonValue.parse? (bytes : List UInt8) : Option JsonValue := do
  let (v, rest) ← Json.value (2 * bytes.length + 1) (Json.skipSpace bytes)
  if (Json.skipSpace rest).isEmpty then some v else none

end Scrollback
