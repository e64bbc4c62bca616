/-
Which logs are on the disk, and in which files.  The list is kept in a file of its own, in the
order of the paths, so that what is written does not depend on how the list came about.
-/
import Scrollback.Disk.Path
import Scrollback.Log.Json

namespace Scrollback

/-- The file of each log that is on the disk, one entry to a log. -/
structure StoreIndex where
  entries : List (LogId × String)

namespace StoreIndex

def empty : StoreIndex := ⟨[]⟩

/-- The file of a log. -/
def path? (x : StoreIndex) (id : LogId) : Option String :=
  x.entries.lookup id

/-- Forget a log. -/
def erase (x : StoreIndex) (id : LogId) : StoreIndex :=
  ⟨x.entries.filter fun e => e.1 ≠ id⟩

/-- Set the file of a log. -/
def insert (x : StoreIndex) (id : LogId) (path : String) : StoreIndex :=
  ⟨(id, path) :: (x.erase id).entries⟩

/-- The entries in the order of their paths. -/
def sorted (x : StoreIndex) : List (LogId × String) :=
  x.entries.mergeSort fun a b => Path.le a.2 b.2

/-- The list as JSON. -/
def toJson (x : StoreIndex) : JsonValue :=
  .list (x.sorted.map fun e => .ofMembers [("id", e.1.toJson), ("path", .ofText e.2)])

/-- The bytes of the list's file. -/
def toBytes (x : StoreIndex) : ByteArray :=
  x.toJson.indented.toByteArray

/-- One entry from JSON. -/
def entryOfJson? (v : JsonValue) : Option (LogId × String) := do
  match ← v.fields? ["id", "path"] with
  | [some id, some path] => pure (← LogId.ofJson? id, ← path.asText?)
  | _ => none

/-- The list from the bytes of its file; of two entries for one log the later one holds. -/
def ofBytes? (bytes : ByteArray) : Option StoreIndex := do
  match ← JsonValue.parse? bytes.data.toList with
  | .list items =>
    let entries ← items.mapM entryOfJson?
    pure (entries.foldl (fun x e => x.insert e.1 e.2) empty)
  | _ => none

end StoreIndex

end Scrollback
