/-
The texts of TOML.  One in double quotes knows escapes, one in single quotes does not; either may be
written with its quotes tripled, and then runs over several lines.
-/
import Scrollback.Text.Decimal

namespace Scrollback.Toml

/-- A reader takes something from the front of a text, or fails. -/
abbrev Reader (α : Type) := List Char → Option (α × List Char)

/-- A character that no text and no comment may hold: a control, other than the tabulator. -/
def isControl (c : Char) : Bool :=
  (c.toNat < 0x20 && c != '\t') || c.toNat == 0x7F

/-- A line break at the front, if there is one. -/
def lineBreak? : List Char → Option (List Char)
  | '\n' :: rest => some rest
  | '\r' :: '\n' :: rest => some rest
  | _ => none

/-- The character of a code point given by a number of hexadecimal digits. -/
def byNumber (count : Nat) : Reader Char := fun cs =>
  let ds := cs.take count
  let n := ds.foldl (fun n c => n * 16 + (hexValue? c).getD 0) 0
  if ds.length = count ∧ ds.all (fun c => (hexValue? c).isSome) ∧ n.isValidChar then
    some (Char.ofNat n, cs.drop count)
  else none

/-- The character that an escape stands for, its backslash being read. -/
def escaped : Reader Char
  | 'b' :: rest => some ('\x08', rest)
  | 't' :: rest => some ('\t', rest)
  | 'n' :: rest => some ('\n', rest)
  | 'f' :: rest => some ('\x0c', rest)
  | 'r' :: rest => some ('\r', rest)
  | 'e' :: rest => some ('\x1b', rest)
  | '"' :: rest => some ('"', rest)
  | '\\' :: rest => some ('\\', rest)
  | 'x' :: rest => byNumber 2 rest
  | 'u' :: rest => byNumber 4 rest
  | 'U' :: rest => byNumber 8 rest
  | _ => none

/-- A text on one line after its opening quote; `done` holds its characters so far, the latest
first. -/
def oneLine (quote : Char) : Nat → (done : List Char) → Reader (List Char)
  | 0, _, _ => none
  | _ + 1, _, [] => none
  | fuel + 1, done, c :: rest =>
    if c = quote then some (done.reverse, rest)
    else if c = '\\' ∧ quote = '"' then do
      let (e, rest) ← escaped rest
      oneLine quote fuel (e :: done) rest
    else if isControl c then none
    else oneLine quote fuel (c :: done) rest

/-- White space and line breaks. -/
def isSpace (c : Char) : Bool :=
  c == ' ' || c == '\t' || c == '\n' || c == '\r'

/-- What a backslash at the end of a line takes away: the rest of the line, if it is blank, the line
break, and all white space after it. -/
def foldedLine? (cs : List Char) : Option (List Char) := do
  let rest ← lineBreak? (cs.dropWhile fun c => c == ' ' || c == '\t')
  some (rest.dropWhile isSpace)

/-- A text over several lines after its opening quotes.  Up to two quotes may stand in it together,
even in front of the three that close it. -/
def manyLines (quote : Char) : Nat → (done : List Char) → Reader (List Char)
  | 0, _, _ => none
  | _ + 1, _, [] => none
  | fuel + 1, done, c :: rest =>
    if c = quote then
      let more := rest.takeWhile (· == quote)
      let count := more.length + 1
      if count < 3 then manyLines quote fuel (c :: more ++ done) (rest.drop more.length)
      else if count ≤ 5 then
        some ((List.replicate (count - 3) quote ++ done).reverse, rest.drop more.length)
      else none
    else if c = '\\' ∧ quote = '"' then
      match foldedLine? rest with
      | some rest => manyLines quote fuel done rest
      | none => do
        let (e, rest) ← escaped rest
        manyLines quote fuel (e :: done) rest
    else
      match lineBreak? (c :: rest) with
      | some rest => manyLines quote fuel ('\n' :: done) rest
      | none => if isControl c then none else manyLines quote fuel (c :: done) rest

/-- A text of any kind, with its quotes. -/
def quotedText : Reader String
  | a :: b :: c :: rest =>
    if (a = '"' ∨ a = '\'') ∧ b = a ∧ c = a then
      let rest := (lineBreak? rest).getD rest
      (manyLines a (rest.length + 1) [] rest).map fun (s, rest) => (String.ofList s, rest)
    else shortText (a :: b :: c :: rest)
  | cs => shortText cs
where
  /-- A text on one line, with its quotes. -/
  shortText : Reader String
    | a :: rest =>
      if a = '"' ∨ a = '\'' then
        (oneLine a (rest.length + 1) [] rest).map fun (s, rest) => (String.ofList s, rest)
      else none
    | [] => none

end Scrollback.Toml
