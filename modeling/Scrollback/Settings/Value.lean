/-
Settings as files give them: a tree of tables and lists whose leaves are texts, numbers and truth
values.  The file formats differ in how they write such a tree; what is done with it is the same.
-/
import Scrollback.Text.Binary64

namespace Scrollback

/-- A setting; in a table each name stands once. -/
inductive Setting where
  | unit
  | bool (b : Bool)
  | integer (i : Int)
  | real (x : Binary64)
  | text (s : String)
  | list (items : List Setting)
  | table (entries : List (String × Setting))
  deriving Repr, Inhabited

namespace Setting

/-- The least and the greatest integer of a setting. -/
def minInteger : Int := -9223372036854775808

def maxInteger : Int := 9223372036854775807

/-- An integer, if it is not too great and not too small. -/
def integer? (i : Int) : Option Setting :=
  if minInteger ≤ i ∧ i ≤ maxInteger then some (.integer i) else none

/-- Set a name in a table; a name that is there keeps its place. -/
def setEntry (entries : List (String × Setting)) (name : String) (v : Setting) :
    List (String × Setting) :=
  match entries with
  | [] => [(name, v)]
  | (n, w) :: rest => if n = name then (n, v) :: rest else (n, w) :: setEntry rest name v

/-- The table of some entries; of entries with one name the last counts. -/
def ofEntries (entries : List (String × Setting)) : Setting :=
  .table (entries.foldl (fun t e => setEntry t e.1 e.2) [])

/-- What a table has for a name. -/
def entry? (s : Setting) (name : String) : Option Setting :=
  match s with
  | .table entries => entries.lookup name
  | _ => none

end Setting

end Scrollback
