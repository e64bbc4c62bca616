/-
YAML by its indentation.  A text is taken as lines, each with the number of blanks in front of it;
what belongs to a name or to a dash stands further to the right.  What follows a dash on its line is
read as a line of its own, as far to the right as it stands.

Texts, lists in brackets and words may run on over further lines.
-/
import Scrollback.Yaml.Flow

namespace Scrollback.Yaml

/-- A line: the number of blanks in front, and the rest of it. -/
structure Line where
  indent : Nat
  text : List Char
  deriving Repr

namespace Line

/-- The line of some characters. -/
def ofChars (cs : List Char) : Line :=
  let blanks := cs.takeWhile (· == ' ')
  ⟨blanks.length, cs.drop blanks.length⟩

/-- Nothing, or a comment. -/
def isEmpty (l : Line) : Bool :=
  match l.text.dropWhile isBlank with
  | [] => true
  | c :: _ => c == '#'

/-- A dash with nothing or a blank after it. -/
def isItem (l : Line) : Bool :=
  match l.text with
  | ['-'] => true
  | '-' :: c :: _ => isBlank c
  | _ => false

/-- Three times a character at the start of a line, with nothing or a blank after it. -/
def isMark (c : Char) (l : Line) : Bool :=
  l.indent == 0 && l.text.take 3 == [c, c, c] && (l.text.drop 3).head?.all isBlank

end Line

/-- A text with one kind of line break. -/
def unixBreaks : List Char → List Char
  | '\r' :: '\n' :: rest => '\n' :: unixBreaks rest
  | '\r' :: rest => '\n' :: unixBreaks rest
  | c :: rest => c :: unixBreaks rest
  | [] => []

/-- The lines of a text. -/
def linesOf (cs : List Char) : List Line :=
  ((unixBreaks cs).splitOn '\n').map Line.ofChars

/-- Only a comment, or nothing, is left on a line. -/
def endsLine (cs : List Char) : Bool :=
  match cs with
  | [] => true
  | c :: _ => isBlank c && (Line.ofChars (cs.dropWhile isBlank)).isEmpty

/-! ### Names -/

/-- A word up to a colon that divides it from its value, and what follows the colon; `done` holds
its characters so far, the latest first. -/
def wordKey? : (done : List Char) → List Char → Option (List Char × List Char)
  | _, [] => none
  | done, ':' :: [] => some (done.reverse, [])
  | done, c :: d :: rest =>
    if c = ':' ∧ isBlank d then some (done.reverse, d :: rest)
    else if d = '#' ∧ isBlank c then none
    else wordKey? (c :: done) (d :: rest)
  | _, [_] => none

/-- A name in front of a colon, and what follows the colon. -/
def key? (cs : List Char) : Option (Setting × List Char) :=
  match cs with
  | [] => none
  | c :: _ =>
    if c = '"' ∨ c = '\'' then do
      let (s, rest) ← quoted cs
      if s.contains '\n' then none
      match rest.dropWhile isBlank with
      | [':'] => some (.text s, [])
      | ':' :: d :: rest => if isBlank d then some (.text s, d :: rest) else none
      | _ => none
    else if beginsWord cs then do
      let (word, rest) ← wordKey? [] cs
      let v ← scalar? (word.reverse.dropWhile isBlank).reverse
      some (v, rest)
    else none

/-! ### Values that run on over lines -/

/-- What stands in quotes or brackets at the start of a text, over as many lines as it takes. -/
def spanning (cs : List Char) (more : List Line) : Option (Setting × List Line) := do
  let all := cs ++ more.flatMap fun l => '\n' :: List.replicate l.indent ' ' ++ l.text
  let ((v, _), rest) ← flowValue (2 * all.length + 2) all
  let left := rest.takeWhile (· != '\n')
  if !endsLine left then none
  some (v, more.drop (more.length - (rest.filter (· == '\n')).length))

/-- The part of a line that belongs to a word: a comment does not. -/
def wordPart : List Char → List Char
  | [] => []
  | [c] => [c]
  | c :: d :: rest => if isBlank c && d == '#' then [] else c :: wordPart (d :: rest)

/-- A line without the blanks at its end. -/
def trimEnd (cs : List Char) : List Char :=
  (cs.reverse.dropWhile isBlank).reverse

/-- The further lines of a word, which stand further to the right than `indent`; `breaks` counts the
line breaks since the last of its words. -/
def wordLines (indent : Nat) (breaks : Nat) : List Line → Option (List Char × List Line)
  | [] => some ([], [])
  | l :: rest =>
    let text := l.text.dropWhile isBlank
    if text.isEmpty then
      match wordLines indent (breaks + 1) rest with
      | some ([], _) => some ([], l :: rest)
      | found => found
    else if l.indent < indent || text.head? = some '#' || l.isMark '-' || l.isMark '.' then
      some ([], l :: rest)
    else if (key? text).isSome || (wordKey? [] text).isSome then none
    else do
      let part := wordPart text
      let (more, rest) ← if part.length = text.length then wordLines indent 1 rest
        else some ([], rest)
      some (folded breaks ++ trimEnd part ++ more, rest)

/-- A word and its further lines. -/
def word (indent : Nat) (cs : List Char) (more : List Line) : Option (Setting × List Line) := do
  if (wordKey? [] cs).isSome then none
  let part := wordPart cs
  let (further, rest) ← if part.length = cs.length then wordLines indent 1 more else some ([], more)
  let v ← scalar? (trimEnd part ++ further)
  some (v, rest)

/-- A value at the start of a text; lines that belong to it stand at `indent` or further to the
right. -/
def inline (indent : Nat) (cs : List Char) (more : List Line) : Option (Setting × List Line) :=
  match cs with
  | [] => none
  | c :: _ =>
    if c = '"' ∨ c = '\'' ∨ c = '[' ∨ c = '\x7b' then spanning cs more
    else if beginsWord cs then word indent cs more
    else none

/-! ### Texts by lines -/

/-- How a text by lines is to be read. -/
structure TextStyle where
  /-- Whether line breaks count as blanks. -/
  folds : Bool
  /-- How far the text is indented, if that is said. -/
  indent : Option Nat
  /-- What becomes of the line breaks at the end: none is kept, one or all of them. -/
  chomp : Option Char

/-- The head of a text by lines. -/
def textStyle? (cs : List Char) : Option TextStyle :=
  match cs with
  | [] => none
  | c :: rest =>
    let marks := rest.takeWhile fun d => d == '+' || d == '-' || isDigit d
    let digits := marks.filter isDigit
    let chomps := marks.filter fun d => !isDigit d
    if (c = '|' ∨ c = '>') ∧ digits.length ≤ 1 ∧ chomps.length ≤ 1 ∧ digits.head? ≠ some '0' ∧
        endsLine (rest.drop marks.length) then
      some ⟨c == '>', digits.head?.map fun d => value [d], chomps.head?⟩
    else none

/-- The lines of a text that is indented by more than `outer`; the first line that is not blank says
how far, unless that is given. -/
def textLines (outer : Nat) (indent : Option Nat) (ls : List Line) : List (List Char) × List Line :=
  let blank (l : Line) : Bool := l.text.isEmpty
  let first := (ls.find? fun l => !blank l).map Line.indent
  let own := max outer ((indent.map (outer + · - 1)).getD (first.getD 0))
  let found := ls.takeWhile fun l => blank l || own ≤ l.indent
  let rows := found.map fun l => List.replicate (l.indent - own) ' ' ++ l.text
  (rows, ls.drop found.length)

/-- Lines put together as they are. -/
def keptLines (rows : List (List Char)) : List Char :=
  rows.flatMap fun r => r ++ ['\n']

/-- Lines put together with blanks; lines that are blank or indented keep their line breaks.
`before` is the line before, if there is one, and `gap` counts the blank lines since then. -/
def foldedLines (before : Option (List Char)) (gap : Nat) : List (List Char) → List Char
  | [] => if before.isSome then List.replicate (gap + 1) '\n' else List.replicate gap '\n'
  | r :: rest =>
    if r.isEmpty then foldedLines before (gap + 1) rest
    else
      let spaced (r : List Char) : Bool := r.head?.any isBlank
      let breaks := match before with
        | none => List.replicate gap '\n'
        | some b =>
          if spaced b || spaced r then List.replicate (gap + 1) '\n'
          else folded (gap + 1)
      breaks ++ r ++ foldedLines (some r) 0 rest

/-- A text by lines. -/
def lineText (outer : Nat) (style : TextStyle) (ls : List Line) : Setting × List Line :=
  let (rows, rest) := textLines outer style.indent ls
  let all := if style.folds then foldedLines none 0 rows else keptLines rows
  let body := (all.reverse.dropWhile (· == '\n')).reverse
  let breaks := all.drop body.length
  let kept := match style.chomp with
    | some '-' => []
    | some _ => breaks
    | none => if body.isEmpty then [] else breaks.take 1
  (.text (String.ofList (body ++ kept)), rest)

/-! ### Blocks -/

/-- Drop empty lines and comments. -/
def dropEmpty (ls : List Line) : List Line :=
  ls.dropWhile Line.isEmpty

mutual

/-- What stands at `indent` or further to the right; nothing, if the next line does not. -/
def block : Nat → (indent : Nat) → List Line → Option (Setting × List Line)
  | 0, _, _ => none
  | fuel + 1, indent, ls =>
    match dropEmpty ls with
    | [] => some (.unit, [])
    | l :: rest =>
      if l.indent < indent || l.isMark '-' || l.isMark '.' then some (.unit, l :: rest)
      else if l.isItem then
        (items fuel l.indent (l :: rest)).map fun (xs, rest) => (.list xs, rest)
      else if (key? l.text).isSome then do
        let (es, rest) ← entries fuel l.indent (l :: rest)
        if (es.map Prod.fst).Nodup then some (.table es, rest) else none
      else
        match textStyle? l.text with
        | some style => some (lineText indent style rest)
        | none => inline indent l.text rest

/-- The items of a list whose dashes stand at `indent`. -/
def items : Nat → (indent : Nat) → List Line → Option (List Setting × List Line)
  | 0, _, _ => none
  | fuel + 1, indent, ls =>
    match dropEmpty ls with
    | [] => some ([], [])
    | l :: rest =>
      if l.indent < indent || l.isMark '-' || l.isMark '.' then some ([], l :: rest)
      else if l.indent = indent ∧ l.isItem then do
        let after := Line.ofChars (l.text.drop 1)
        let inner : Line := ⟨indent + 1 + after.indent, after.text⟩
        let lines := if inner.isEmpty then rest else inner :: rest
        let (x, rest) ← block fuel (indent + 1) lines
        let (xs, rest) ← items fuel indent rest
        some (x :: xs, rest)
      else if l.indent = indent then some ([], l :: rest)
      else none

/-- The names of a table that stand at `indent`, with their values. -/
def entries : Nat → (indent : Nat) → List Line → Option (List (String × Setting) × List Line)
  | 0, _, _ => none
  | fuel + 1, indent, ls =>
    match dropEmpty ls with
    | [] => some ([], [])
    | l :: rest =>
      if l.indent < indent || l.isMark '-' || l.isMark '.' then some ([], l :: rest)
      else if indent < l.indent then none
      else do
        let (k, after) ← key? l.text
        let name ← nameOf? k
        let text := after.dropWhile isBlank
        let (v, rest) ←
          if text.isEmpty || text.head? = some '#' then
            match dropEmpty rest with
            | [] => some (.unit, [])
            | m :: _ =>
              if m.indent = indent && m.isItem then
                (items fuel indent rest).map fun (xs, rest) => (.list xs, rest)
              else block fuel (indent + 1) rest
          else
            match textStyle? text with
            | some style => some (lineText (indent + 1) style rest)
            | none => inline (indent + 1) text rest
        let (es, rest) ← entries fuel indent rest
        some ((name, v) :: es, rest)

end

/-! ### Files -/

/-- The lines of a file after the mark that may stand at its start. -/
def afterMark (ls : List Line) : List Line :=
  match dropEmpty ls with
  | [] => []
  | l :: rest =>
    if l.isMark '-' then
      let text := l.text.drop 3
      let blanks := (text.takeWhile isBlank).length
      ⟨3 + blanks, text.drop blanks⟩ :: rest
    else l :: rest

/-- The lines after the directives at the start, which a mark has to follow. -/
def afterDirectives? (ls : List Line) : Option (List Line) :=
  let isDirective (l : Line) : Bool := l.indent == 0 && l.text.head? == some '%'
  let rest := ls.dropWhile fun l => l.isEmpty || isDirective l
  if !(dropEmpty ls).head?.any isDirective then some ls
  else if rest.head?.any (Line.isMark '-') then some rest
  else none

/-- Nothing but the mark of the end may follow. -/
def isEnd (ls : List Line) : Bool :=
  match dropEmpty ls with
  | [] => true
  | l :: rest => l.isMark '.' && endsLine (l.text.drop 3) && (dropEmpty rest).isEmpty

/-- The value that a text spells; a text without any value spells a table without names. -/
def parse? (cs : List Char) : Option Setting := do
  let ls := linesOf (if cs.head? = some '\ufeff' then cs.drop 1 else cs)
  if (dropEmpty ls).isEmpty then some (.table [])
  else
    let (v, rest) ← block (2 * cs.length + 4) 0 (afterMark (← afterDirectives? ls))
    if isEnd rest then some v else none

end Scrollback.Yaml
