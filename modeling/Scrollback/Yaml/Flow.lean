/-
Lists and tables of YAML in brackets and braces.  Their parts are divided by commas, and line breaks
and comments may stand between them.
-/
import Scrollback.Yaml.Scalar

namespace Scrollback.Yaml

/-- Drop white space, line breaks and comments. -/
def skipSpace : Nat → List Char → List Char
  | 0, cs => cs
  | fuel + 1, cs =>
    match cs.dropWhile fun c => isBlank c || c == '\n' with
    | '#' :: rest => skipSpace fuel (rest.dropWhile (· != '\n'))
    | rest => rest

/-- Drop white space, line breaks and comments. -/
def skip (cs : List Char) : List Char :=
  skipSpace (cs.length + 1) cs

/-- A character that divides or ends what stands in brackets. -/
def isFlowMark (c : Char) : Bool :=
  c == ',' || c == '[' || c == ']' || c == '\x7b' || c == '\x7d'

/-- A word without quotes within brackets; `done` holds its characters so far, the latest first. -/
def flowWord : Nat → (done : List Char) → List Char → List Char × List Char
  | 0, done, cs => (done, cs)
  | _ + 1, done, [] => (done, [])
  | fuel + 1, done, c :: rest =>
    let ends := match rest with
      | [] => true
      | d :: _ => isBlank d || d == '\n' || isFlowMark d
    if isFlowMark c || (c == ':' && ends) || (c == '#' && done.head?.any isBlank) then (done, c :: rest)
    else if c = '\n' then
      let (n, rest) := lineBreaks (rest.length + 2) (c :: rest)
      if rest.head? = some '#' then (done, rest)
      else flowWord fuel (folded n ++ done.dropWhile isBlank) rest
    else flowWord fuel (c :: done) rest

/-- What follows a colon, if there is one that divides a name from its value; after a text in quotes
it need not be followed by a blank. -/
def afterColon? (quoted : Bool) (cs : List Char) : Option (List Char) :=
  match skip cs with
  | ':' :: rest =>
    match rest with
    | [] => some []
    | d :: _ => if quoted || isBlank d || d == '\n' || isFlowMark d then some rest else none
  | _ => none

mutual

/-- A value within brackets, and whether it is a text in quotes. -/
def flowValue : Nat → Reader (Setting × Bool)
  | 0, _ => none
  | _ + 1, [] => none
  | fuel + 1, c :: rest =>
    if c = '[' then (flowItems fuel (skip rest)).map fun (xs, rest) => ((.list xs, true), rest)
    else if c = '\x7b' then do
      let (es, rest) ← flowEntries fuel (skip rest)
      if (es.map Prod.fst).Nodup then some ((.table es, true), rest) else none
    else if c = '"' ∨ c = '\'' then
      (quoted (c :: rest)).map fun (s, rest) => ((.text s, true), rest)
    else if beginsWord (c :: rest) then
      let (done, rest) := flowWord (rest.length + 2) [] (c :: rest)
      (scalar? (done.dropWhile isBlank).reverse).map fun v => ((v, false), rest)
    else none

/-- A value after a colon; it may be missing. -/
def flowValueAfter : Nat → Reader Setting
  | 0, _ => none
  | fuel + 1, cs =>
    match skip cs with
    | [] => none
    | c :: rest =>
      if c = ',' ∨ c = ']' ∨ c = '\x7d' then some (.unit, c :: rest)
      else (flowValue fuel (c :: rest)).map fun ((v, _), rest) => (v, rest)

/-- The items of a list, with its closing bracket; a name with a value is a table of its own. -/
def flowItems : Nat → Reader (List Setting)
  | 0, _ => none
  | _ + 1, ']' :: rest => some ([], rest)
  | fuel + 1, cs => do
    let ((v, q), rest) ← flowValue fuel cs
    let (item, rest) ← match afterColon? q rest with
      | none => some (v, rest)
      | some rest => do
        let (w, rest) ← flowValueAfter fuel rest
        some (.table [(← nameOf? v, w)], rest)
    match skip rest with
    | ',' :: rest => (flowItems fuel (skip rest)).map fun (xs, rest) => (item :: xs, rest)
    | ']' :: rest => some ([item], rest)
    | _ => none

/-- The names and values of a table, with its closing brace; a name alone has no value. -/
def flowEntries : Nat → Reader (List (String × Setting))
  | 0, _ => none
  | _ + 1, [] => none
  | fuel + 1, c :: cs =>
    if c = '\x7d' then some ([], cs)
    else do
      let ((key, q), rest) ← flowValue fuel (c :: cs)
      let name ← nameOf? key
      let (v, rest) ← match afterColon? q rest with
        | none => some (.unit, rest)
        | some rest => flowValueAfter fuel rest
      match skip rest with
      | [] => none
      | d :: rest =>
        if d = ',' then (flowEntries fuel (skip rest)).map fun (es, rest) => ((name, v) :: es, rest)
        else if d = '\x7d' then some ([(name, v)], rest)
        else none

end

end Scrollback.Yaml
