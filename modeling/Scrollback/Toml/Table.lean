/-
Tables under construction.  What may still be added to a table depends on where it comes from: a
table is opened by its heading once, dotted names only reach into tables that dotted names have
made, and what stands on the right of an equals sign is complete.
-/
import Scrollback.Settings.Value

namespace Scrollback.Toml

/-- Where a table comes from. -/
inductive Origin where
  /-- Its own heading. -/
  | heading
  /-- The heading of a table within it. -/
  | implied
  /-- A dotted name. -/
  | dotted
  deriving DecidableEq, Repr

/-- What a name in a table stands for. -/
inductive Node where
  | value (v : Setting)
  | table (origin : Origin) (entries : List (String × Node))
  /-- Several tables with headings of their own, the latest first. -/
  | tables (latest : List (String × Node)) (earlier : List (List (String × Node)))

/-- The names of a table and what they stand for. -/
abbrev Entries := List (String × Node)

/-- Set a name in a table; a name that is there keeps its place. -/
def setNode (entries : Entries) (name : String) (v : Node) : Entries :=
  match entries with
  | [] => [(name, v)]
  | (n, w) :: rest => if n = name then (n, v) :: rest else (n, w) :: setNode rest name v

/-- Change the table at the end of a path, making what is missing on the way.  Of several tables
with one heading the latest is meant. -/
def within (dotted : Bool) (change : Origin → Entries → Option Entries) :
    List String → Origin → Entries → Option Entries
  | [], origin, entries => change origin entries
  | name :: path, _, entries =>
    match entries.lookup name with
    | none => do
      let origin := if dotted then .dotted else .implied
      let inner ← within dotted change path origin []
      some (setNode entries name (.table origin inner))
    | some (.value _) => none
    | some (.table origin inner) =>
      if dotted && origin = .heading then none
      else do
        let inner ← within dotted change path origin inner
        some (setNode entries name (.table origin inner))
    | some (.tables latest earlier) => do
      let latest ← within dotted change path .heading latest
      some (setNode entries name (.tables latest earlier))

/-- The path in front of the last name, and this name. -/
def splitPath : List String → Option (List String × String)
  | [] => none
  | [name] => some ([], name)
  | name :: rest => (splitPath rest).map fun (path, last) => (name :: path, last)

/-- Give a name a value; a dotted name reaches into a table of dotted names and no other. -/
def assign (entries : Entries) (names : List String) (v : Setting) : Option Entries := do
  let (path, name) ← splitPath names
  within true (fun origin inner =>
    if decide (origin = .dotted) == path.isEmpty then none
    else if (inner.lookup name).isSome then none
    else some (setNode inner name (.value v))) path .heading entries

/-- Give several names their values. -/
def assignAll (entries : Entries) (items : List (List String × Setting)) : Option Entries :=
  items.foldlM (fun t item => assign t item.1 item.2) entries

/-- Add the table of a heading. -/
def addTable (entries : Entries) (names : List String) (items : List (List String × Setting)) :
    Option Entries := do
  let (path, name) ← splitPath names
  within false (fun _ above =>
    match above.lookup name with
    | none => (assignAll [] items).map fun t => setNode above name (.table .heading t)
    | some (.table .implied t) =>
      (assignAll t items).map fun t => setNode above name (.table .heading t)
    | _ => none) path .heading entries

/-- Add one more table to those of a heading. -/
def addToTables (entries : Entries) (names : List String) (items : List (List String × Setting)) :
    Option Entries := do
  let (path, name) ← splitPath names
  let latest ← assignAll [] items
  within false (fun _ above =>
    match above.lookup name with
    | none => some (setNode above name (.tables latest []))
    | some (.tables before earlier) => some (setNode above name (.tables latest (before :: earlier)))
    | _ => none) path .heading entries

mutual

/-- What a finished node stands for. -/
def Node.setting : Node → Setting
  | .value v => v
  | .table _ entries => .table (settings entries)
  | .tables latest earlier => .list (settingLists earlier [.table (settings latest)])

/-- What the names of a finished table stand for. -/
def settings : List (String × Node) → List (String × Setting)
  | [] => []
  | (name, v) :: rest => (name, v.setting) :: settings rest

/-- Finished tables, the latest first, in front of others. -/
def settingLists : List (List (String × Node)) → List Setting → List Setting
  | [], done => done
  | t :: rest, done => settingLists rest (.table (settings t) :: done)

end

end Scrollback.Toml
