/-
The leaves of YAML.  A word without quotes is a number or a truth value if it looks like one, and
nothing if it is empty, a tilde or `null`; what is quoted is a text.  A text in double quotes knows
escapes; in either kind of quotes, a line break counts as a blank, and only further ones are kept.
-/
import Scrollback.Settings.Value

namespace Scrollback.Yaml

/-- A reader takes something from the front of a text, or fails. -/
abbrev Reader (α : Type) := List Char → Option (α × List Char)

/-- White space within a line. -/
def isBlank (c : Char) : Bool :=
  c == ' ' || c == '\t'

/-! ### Words -/

/-- Digits to a base, after a sign if there is one. -/
def signed? (base : Nat) (cs : List Char) : Option Int :=
  let (negative, ds) := match cs with
    | '-' :: rest => (true, rest)
    | '+' :: rest => (false, rest)
    | rest => (false, rest)
  if ds.isEmpty || !ds.all fun c => (hexValue? c).any (· < base) then none
  else
    let n := ds.foldl (fun n c => n * base + (hexValue? c).getD 0) 0
    some (if negative then -(n : Int) else n)

/-- An integer, if it is not too great and not too small. -/
def integer? (cs : List Char) : Option Setting :=
  let plain := signed? 10 cs
  let found := match cs with
    | '0' :: 'x' :: rest => signed? 16 rest
    | '0' :: 'o' :: rest => signed? 8 rest
    | _ => plain
  found >>= Setting.integer?

/-- The words for infinity and for what is no number, which cannot be read as numbers. -/
def isUnreadable (s : String) : Bool :=
  [".inf", ".Inf", ".INF", "+.inf", "+.Inf", "+.INF", "-.inf", "-.Inf", "-.INF", ".nan", ".NaN",
    ".NAN"].contains s

/-- What a word without quotes stands for. -/
def scalar? (cs : List Char) : Option Setting :=
  let s := String.ofList cs
  if s = "" ∨ s = "~" ∨ s = "null" then some .unit
  else if s = "true" then some (.bool true)
  else if s = "false" then some (.bool false)
  else if isUnreadable s then none
  else
    match integer? cs with
    | some i => some i
    | none =>
      match Binary64.ofText? cs with
      | some x => some (.real x)
      | none => some (.text s)

/-- The name that a key stands for. -/
def nameOf? : Setting → Option String
  | .text s => some s
  | .integer i => some (signedDecimal i)
  | .bool b => some (if b then "true" else "false")
  | .real x => some x.text
  | _ => none

/-! ### Texts in quotes -/

/-- Line breaks at the front, with blanks around them: how many there are, and what follows. -/
def lineBreaks : Nat → List Char → Nat × List Char
  | 0, cs => (0, cs)
  | fuel + 1, cs =>
    match cs.dropWhile isBlank with
    | '\n' :: rest =>
      let (n, rest) := lineBreaks fuel rest
      (n + 1, rest)
    | rest => (0, rest)

/-- What some line breaks amount to. -/
def folded (count : Nat) : List Char :=
  if count = 1 then [' '] else List.replicate (count - 1) '\n'

/-- The character of a code point given by a number of hexadecimal digits. -/
def byNumber (count : Nat) : Reader Char := fun cs =>
  let ds := cs.take count
  let n := ds.foldl (fun n c => n * 16 + (hexValue? c).getD 0) 0
  if ds.length = count ∧ ds.all (fun c => (hexValue? c).isSome) ∧ n.isValidChar then
    some (Char.ofNat n, cs.drop count)
  else none

/-- The letters of escapes, and what they stand for. -/
def letters : List (Char × Char) :=
  [('0', '\x00'), ('a', '\x07'), ('b', '\x08'), ('t', '\t'), ('\t', '\t'), ('n', '\n'),
    ('v', '\x0b'), ('f', '\x0c'), ('r', '\r'), ('e', '\x1b'), (' ', ' '), ('"', '"'), ('/', '/'),
    ('\\', '\\'), ('N', '\u0085'), ('_', '\u00a0'), ('L', '\u2028'), ('P', '\u2029')]

/-- The character that an escape stands for, its backslash being read. -/
def escaped : Reader Char
  | [] => none
  | c :: rest =>
    if c = 'x' then byNumber 2 rest
    else if c = 'u' then byNumber 4 rest
    else if c = 'U' then byNumber 8 rest
    else (letters.lookup c).map fun e => (e, rest)

/-- A text after its opening quote; `done` holds its characters so far, the latest first. -/
def quotedRest (quote : Char) : Nat → (done : List Char) → Reader (List Char)
  | 0, _, _ => none
  | _ + 1, _, [] => none
  | fuel + 1, done, c :: rest =>
    if c = quote then
      match quote, rest with
      | '\'', '\'' :: rest => quotedRest quote fuel ('\'' :: done) rest
      | _, _ => some (done.reverse, rest)
    else if c = '\\' ∧ quote = '"' then
      match rest with
      | '\n' :: _ =>
        let (n, rest) := lineBreaks (rest.length + 1) rest
        quotedRest quote fuel (List.replicate (n - 1) '\n' ++ done) rest
      | _ => do
        let (e, rest) ← escaped rest
        quotedRest quote fuel (e :: done) rest
    else if c = '\n' then
      let (n, rest) := lineBreaks (rest.length + 2) (c :: rest)
      quotedRest quote fuel (folded n ++ done.dropWhile isBlank) rest
    else quotedRest quote fuel (c :: done) rest

/-- A text in quotes. -/
def quoted : Reader String
  | [] => none
  | c :: rest =>
    if c = '"' ∨ c = '\'' then
      (quotedRest c (rest.length + 1) [] rest).map fun (s, rest) => (String.ofList s, rest)
    else none

/-- What a word without quotes cannot begin with. -/
def isIndicator (c : Char) : Bool :=
  isBlank c || [',', '[', ']', '\x7b', '\x7d', '#', '&', '*', '!', '|', '>', '\'', '"', '%', '@', '`'].contains c

/-- A word without quotes can begin here. -/
def beginsWord : List Char → Bool
  | [] => false
  | [c] => !isIndicator c && c != '?' && c != ':' && c != '-'
  | c :: d :: _ =>
    if c = '-' || c = '?' || c = ':' then !isBlank d && d != '\n' else !isIndicator c

end Scrollback.Yaml
