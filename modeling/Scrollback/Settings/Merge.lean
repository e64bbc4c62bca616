/-
Laying settings over others.  A table is merged name by name into what is there; everything else
takes its place.

At the top of a file a name may be a path, such as `cache.dir` or `hosts[0]`; it reaches into tables
and lists, which are made if they are missing.  A negative place counts from the end of a list.
-/
import Scrollback.Settings.Value

namespace Scrollback

/-- A step into a setting. -/
inductive SettingStep where
  | name (name : String)
  | place (index : Int)
  deriving DecidableEq, Repr

namespace Setting

/-! ### Paths -/

/-- A character of a name in a path. -/
def isPathChar (c : Char) : Bool :=
  ('a' ≤ c && c ≤ 'z') || ('A' ≤ c && c ≤ 'Z') || isDigit c || c == '_' || c == '-'

/-- A name at the front of a path. -/
def pathName? (cs : List Char) : Option (String × List Char) :=
  let found := cs.takeWhile isPathChar
  if found.isEmpty then none else some (String.ofList found, cs.drop found.length)

/-- A place in a list, with its closing bracket. -/
def pathPlace? (cs : List Char) : Option (Int × List Char) :=
  let isBlank (c : Char) : Bool := c == ' ' || c == '\t'
  let cs := cs.dropWhile isBlank
  let (negative, cs) := match cs with
    | '-' :: rest => (true, rest)
    | rest => (false, rest)
  let ds := cs.takeWhile isDigit
  let n : Int := value ds
  let i := if negative then -n else n
  match (cs.drop ds.length).dropWhile isBlank with
  | ']' :: rest => if ds.isEmpty || (integer? i).isNone then none else some (i, rest)
  | _ => none

/-- The steps after the first name of a path. -/
def pathSteps? : Nat → List Char → Option (List SettingStep)
  | _, [] => some []
  | 0, _ => none
  | fuel + 1, c :: rest =>
    if c = '.' then do
      let (n, rest) ← pathName? rest
      (pathSteps? fuel rest).map fun more => .name n :: more
    else if c = '[' then do
      let (i, rest) ← pathPlace? rest
      (pathSteps? fuel rest).map fun more => .place i :: more
    else none

/-- The steps of a name at the top of a file; one that is no path is taken as it is. -/
def stepsOf (name : String) : List SettingStep :=
  let found? := do
    let (n, rest) ← pathName? name.toList
    (pathSteps? rest.length rest).map fun more => SettingStep.name n :: more
  found?.getD [.name name]

/-! ### Reaching into settings -/

/-- Change what stands at a place of a list, which is filled up as far as it has to be. -/
def alterPlace (items : List Setting) (index : Int) (f : Setting → Setting) : List Setting :=
  let missing := -index - items.length
  if index < 0 ∧ 0 < missing then
    f .unit :: (List.replicate (missing.toNat - 1) .unit ++ items)
  else
    let i := (if index < 0 then items.length + index else index).toNat
    let items := items ++ List.replicate (i + 1 - items.length) .unit
    items.modify i f

/-- Change what stands at the end of some steps; what is in the way is replaced. -/
def alter (f : Setting → Setting) : List SettingStep → Setting → Setting
  | [], s => f s
  | .name n :: rest, s =>
    let entries := match s with
      | .table entries => entries
      | _ => []
    .table (setEntry entries n (alter f rest ((entries.lookup n).getD .unit)))
  | .place i :: rest, s =>
    let items := match s with
      | .list items => items
      | _ => []
    .list (alterPlace items i (alter f rest))

/-! ### Merging -/

mutual

/-- Lay a setting over another. -/
def laidOver : Setting → Setting → Setting
  | .table entries, old =>
    entriesOver entries (match old with
      | .unit => .table []
      | old => old)
  | v, _ => v

/-- Lay the entries of a table over a setting. -/
def entriesOver : List (String × Setting) → Setting → Setting
  | [], old => old
  | (n, v) :: rest, old => entriesOver rest (alter (laidOver v) [.name n] old)

end

/-- Lay the settings of a file over others. -/
def fileOver (entries : List (String × Setting)) (old : Setting) : Setting :=
  entries.foldl (fun s e => alter (laidOver e.2) (stepsOf e.1) s) old

end Setting

end Scrollback
