/-
Paths.  A path is its text; what it names is given by its components, so that doubled slashes and
single dots do not matter.  Paths are ordered component by component, not letter by letter.
-/
import Scrollback.Text.Utf8

namespace Scrollback.Path

/-- The path of a name within a directory; a name that starts at the root is a path already. -/
def join (dir name : String) : String :=
  if dir.isEmpty || name.startsWith "/" then name
  else if dir.endsWith "/" then dir ++ name
  else dir ++ "/" ++ name

/-- The pieces between slashes. -/
def pieces (path : String) : List String :=
  (path.toList.splitOn '/').map String.ofList

/-- The names along a path; a path from the root has the root as the first of them. -/
def components (path : String) : List String :=
  let names := (pieces path).filter fun n => n != "" && n != "."
  if path.startsWith "/" then "/" :: names else names

/-- A path, read from its end, without the slashes and single dots there that say nothing. -/
def dropIdle : List Char → List Char
  | '/' :: back => dropIdle back
  | '.' :: '/' :: back => dropIdle ('/' :: back)
  | back => back

/-- The path without its last component, if it has one to drop. -/
def parent? (path : String) : Option String :=
  let back := dropIdle path.toList.reverse
  if back.isEmpty then none
  else
    let dir := dropIdle (back.dropWhile (· != '/'))
    some (if dir.isEmpty && path.startsWith "/" then "/" else String.ofList dir.reverse)

/-- The last component, unless it is a step upwards. -/
def fileName? (path : String) : Option String :=
  match (components path).getLast? with
  | some "/" => none
  | some ".." => none
  | name => name

/-- What follows the last dot of a file's name, a dot in front aside. -/
def extension? (path : String) : Option String :=
  (fileName? path).bind fun name =>
    let back := name.toList.reverse
    let tail := back.takeWhile (· != '.')
    if tail.length + 1 < back.length then some (String.ofList tail.reverse) else none

/-- What a component counts for in the order of paths: the root comes first, then a leading dot,
then steps upwards, then names by their bytes. -/
def rank (component : String) : List UInt8 :=
  if component = "/" then [0]
  else if component = "." then [1]
  else if component = ".." then [2]
  else 3 :: utf8 component

/-- The key that paths are ordered by. -/
def key (path : String) : List (List UInt8) :=
  let dot := if (pieces path).head? = some "." then ["."] else []
  (dot ++ components path).map rank

/-- One path does not come after another. -/
def le (a b : String) : Bool :=
  decide (key a ≤ key b)

end Scrollback.Path
