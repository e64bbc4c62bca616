/-
Reading TOML.  A file is a sequence of sections, each with its heading and the names that are given
values below it; the sections are then put together to one table.

Lists and tables on the right of an equals sign may run over several lines, with comments.  They may
be nested up to a bound.
-/
import Scrollback.Toml.Quoted
import Scrollback.Toml.Scalar
import Scrollback.Toml.Table

namespace Scrollback.Toml

/-! ### Between the words -/

/-- Drop white space within a line. -/
def skipBlank (cs : List Char) : List Char :=
  cs.dropWhile fun c => c == ' ' || c == '\t'

/-- Drop a comment, if there is one, up to the end of its line. -/
def skipComment : Nat → List Char → Option (List Char)
  | 0, _ => none
  | fuel + 1, '#' :: rest => go fuel rest
  | _, cs => some cs
where
  /-- Drop the characters of a comment. -/
  go : Nat → List Char → Option (List Char)
    | 0, cs => some cs
    | _, [] => some []
    | fuel + 1, c :: rest =>
      if (lineBreak? (c :: rest)).isSome then some (c :: rest)
      else if isControl c then none
      else go fuel rest

/-- Drop blanks and a comment, up to the end of the line or to the next word. -/
def skipToWord (cs : List Char) : Option (List Char) :=
  let cs := skipBlank cs
  skipComment (cs.length + 1) cs

/-- Drop blanks, comments and line breaks. -/
def skipLines : Nat → List Char → Option (List Char)
  | 0, _ => none
  | fuel + 1, cs => do
    let cs ← skipToWord cs
    match lineBreak? cs with
    | some rest => skipLines fuel rest
    | none => some cs

/-- Read a given character. -/
def expect (c : Char) : List Char → Option (List Char)
  | [] => none
  | d :: rest => if d = c then some rest else none

/-! ### Names -/

/-- A character of a name without quotes. -/
def isNameChar (c : Char) : Bool :=
  ('a' ≤ c && c ≤ 'z') || ('A' ≤ c && c ≤ 'Z') || isDigit c || c == '_' || c == '-'

/-- A name. -/
def name : Reader String := fun cs =>
  let word := cs.takeWhile isNameChar
  if word.isEmpty then quotedText.shortText cs
  else some (String.ofList word, cs.drop word.length)

/-- Names joined by dots. -/
def dottedName : Nat → Reader (List String)
  | 0, _ => none
  | fuel + 1, cs => do
    let (first, rest) ← name cs
    match expect '.' (skipBlank rest) with
    | none => some ([first], rest)
    | some rest =>
      let (more, rest) ← dottedName fuel (skipBlank rest)
      some (first :: more, rest)

/-! ### Values -/

/-- A character that ends a word without quotes. -/
def endsWord (c : Char) : Bool :=
  isSpace c || c == ',' || c == ']' || c == '\x7d' || c == '#' || c == '=' || c == '"' || c == '\'' ||
    c == '[' || c == '\x7b'

/-- A word without quotes; a blank may stand between a date and a time. -/
def word : Reader Setting := fun cs =>
  let first := cs.takeWhile fun c => !endsWord c
  let rest := cs.drop first.length
  let second := match rest with
    | ' ' :: d :: _ =>
      if isDigit d && (dateOf? first).isSome then
        ' ' :: (rest.drop 1).takeWhile fun c => !endsWord c
      else []
    | _ => []
  (scalar? (first ++ second)).map fun v => (v, rest.drop second.length)

/-- How deep lists and tables may be nested. -/
def maxDepth : Nat := 80

mutual

/-- A value at the front of a text. -/
def valueAt : Nat → (depth : Nat) → Reader Setting
  | 0, _, _ => none
  | _ + 1, _, [] => none
  | fuel + 1, depth, c :: rest =>
    if c = '"' ∨ c = '\'' then
      (quotedText (c :: rest)).map fun (s, rest) => (.text s, rest)
    else if c = '[' then
      match depth with
      | 0 => none
      | depth + 1 => (itemsAt fuel depth rest).map fun (xs, rest) => (.list xs, rest)
    else if c = '\x7b' then
      match depth with
      | 0 => none
      | depth + 1 => do
        let (items, rest) ← fieldsAt fuel depth rest
        let t ← assignAll [] items
        some (.table (settings t), rest)
    else word (c :: rest)

/-- The items of a list, with its closing bracket. -/
def itemsAt : Nat → (depth : Nat) → Reader (List Setting)
  | 0, _, _ => none
  | fuel + 1, depth, cs => do
    let cs ← skipLines (cs.length + 1) cs
    match expect ']' cs with
    | some rest => some ([], rest)
    | none =>
      let (x, rest) ← valueAt fuel depth cs
      let rest ← skipLines (rest.length + 1) rest
      match expect ',' rest with
      | some rest =>
        let (xs, rest) ← itemsAt fuel depth rest
        some (x :: xs, rest)
      | none => (expect ']' rest).map fun rest => ([x], rest)

/-- The names and values of a table between braces, with its closing brace. -/
def fieldsAt : Nat → (depth : Nat) → Reader (List (List String × Setting))
  | 0, _, _ => none
  | fuel + 1, depth, cs => do
    let cs ← skipLines (cs.length + 1) cs
    match expect '\x7d' cs with
    | some rest => some ([], rest)
    | none =>
      let (names, rest) ← dottedName fuel cs
      let rest ← expect '=' (skipBlank rest)
      let (x, rest) ← valueAt fuel depth (skipBlank rest)
      let rest ← skipLines (rest.length + 1) rest
      match expect ',' rest with
      | some rest =>
        let (more, rest) ← fieldsAt fuel depth rest
        some ((names, x) :: more, rest)
      | none => (expect '\x7d' rest).map fun rest => ([(names, x)], rest)

end

/-! ### Sections -/

/-- The heading of a section: none for what stands above all headings. -/
inductive Heading where
  | none
  | table (names : List String)
  | tables (names : List String)

/-- A heading and what is below it, the latest first. -/
structure Section where
  heading : Heading
  items : List (List String × Setting)

/-- A heading in its brackets. -/
def heading : Reader Heading := fun cs => do
  let rest ← expect '[' cs
  match expect '[' rest with
  | some rest =>
    let (names, rest) ← dottedName (rest.length + 1) (skipBlank rest)
    let rest ← expect ']' (skipBlank rest) >>= expect ']'
    some (.tables names, rest)
  | none =>
    let (names, rest) ← dottedName (rest.length + 1) (skipBlank rest)
    let rest ← expect ']' (skipBlank rest)
    some (.table names, rest)

/-- A name, an equals sign and a value. -/
def assignment : Reader (List String × Setting) := fun cs => do
  let (names, rest) ← dottedName (cs.length + 1) cs
  let rest ← expect '=' (skipBlank rest)
  let rest := skipBlank rest
  let (v, rest) ← valueAt (2 * rest.length + 1) maxDepth rest
  some ((names, v), rest)

/-- The end of a line, or of the text. -/
def endOfLine (cs : List Char) : Option (List Char) := do
  let cs ← skipToWord cs
  if cs.isEmpty then some [] else lineBreak? cs

/-- All sections, the latest first, being within the first of them. -/
def sections : Nat → List Section → List Char → Option (List Section)
  | 0, _, _ => none
  | fuel + 1, done, cs => do
    let cs ← skipLines (cs.length + 1) cs
    if cs.isEmpty then some done
    else if cs.head? = some '[' then
      let (h, rest) ← heading cs
      sections fuel (⟨h, []⟩ :: done) (← endOfLine rest)
    else
      let (item, rest) ← assignment cs
      let rest ← endOfLine rest
      match done with
      | [] => none
      | s :: more => sections fuel ({ s with items := item :: s.items } :: more) rest

/-- Add a section to what is above it. -/
def Section.addTo (entries : Entries) (s : Section) : Option Entries :=
  match s.heading with
  | .none => assignAll entries s.items.reverse
  | .table names => addTable entries names s.items.reverse
  | .tables names => addToTables entries names s.items.reverse

/-- The table that a text spells. -/
def parse? (cs : List Char) : Option Setting := do
  let cs := if cs.head? = some '\ufeff' then cs.drop 1 else cs
  let found ← sections (cs.length + 1) [⟨.none, []⟩] cs
  let entries ← found.reverse.foldlM Section.addTo []
  some (.table (settings entries))

end Scrollback.Toml
