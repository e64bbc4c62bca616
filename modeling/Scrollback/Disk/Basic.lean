/-
A disk: directories and files by the components of their paths.  Every operation says what it did
and leaves a disk; a failed one may leave traces, such as the directories made before the one that
could not be made, or a file emptied before it could be written.
-/
import Scrollback.Disk.Error
import Scrollback.Disk.Path

namespace Scrollback

/-- What a path can name. -/
inductive Disk.Node where
  | directory
  | file (bytes : ByteArray)

/-- It is a directory. -/
def Disk.Node.isDirectory : Disk.Node → Bool
  | .directory => true
  | .file _ => false

/-- It is a file of just these bytes. -/
def Disk.Node.holds (n : Disk.Node) (bytes : ByteArray) : Bool :=
  match n with
  | .directory => false
  | .file old => old.data == bytes.data

/-- Directories and files by the components of their paths. -/
structure Disk where
  nodes : List (List String × Disk.Node)

namespace Disk

/-- What lies at some components; the place where all paths start is a directory. -/
def node? (d : Disk) (names : List String) : Option Node :=
  if names.isEmpty || names == ["/"] then some .directory else d.nodes.lookup names

/-- Put something at some components, instead of what was there. -/
def setNode (d : Disk) (names : List String) (n : Node) : Disk :=
  ⟨(names, n) :: d.nodes.filter fun e => e.1 ≠ names⟩

/-- Remove what lies at some components. -/
def eraseNode (d : Disk) (names : List String) : Disk :=
  ⟨d.nodes.filter fun e => e.1 ≠ names⟩

/-- The greatest number of bytes in a name, and in a path. -/
def maxName : Nat := 255

def maxPath : Nat := 4095

/-- Go through directories along some names up to the last one, which need not exist. -/
def walk (d : Disk) (done : List String) : List String → Except DiskError Unit
  | [] => .ok ()
  | name :: rest =>
    if maxName < name.utf8ByteSize then .error .nameTooLong
    else if rest.isEmpty then .ok ()
    else
      match d.node? (done ++ [name]) with
      | some .directory => walk d (done ++ [name]) rest
      | some (.file _) => .error .notDirectory
      | none => .error .notFound

/-- The components of a path whose last one alone may be missing. -/
def locate (d : Disk) (path : String) : Except DiskError (List String) :=
  if path.isEmpty then .error .notFound
  else if path.contains '\x00' then .error .zeroInName
  else if maxPath < path.utf8ByteSize then .error .nameTooLong
  else
    let names := Path.components path
    (d.walk [] names).map fun _ => names

/-- What a path names. -/
def find (d : Disk) (path : String) : Except DiskError Node := do
  match d.node? (← d.locate path) with
  | some n => pure n
  | none => throw .notFound

/-- A path names a file. -/
def isFile (d : Disk) (path : String) : Bool :=
  match d.find path with
  | .ok (.file _) => true
  | _ => false

/-- The bytes of a file. -/
def read (d : Disk) (path : String) : Except DiskError ByteArray := do
  match ← d.find path with
  | .file bytes => pure bytes
  | .directory => throw .isDirectory

/-- Where a file can be written: not where a directory is. -/
def place (d : Disk) (path : String) : Except DiskError (List String) := do
  let names ← d.locate path
  match d.node? names with
  | some .directory => throw .isDirectory
  | _ => pure names

/-- Write a file, new or instead of one that is there. -/
def write (d : Disk) (path : String) (bytes : ByteArray) : Except DiskError Disk :=
  (d.place path).map fun names => d.setNode names (.file bytes)

/-- Remove a file. -/
def remove (d : Disk) (path : String) : Except DiskError Disk := do
  let names ← d.locate path
  match d.node? names with
  | some (.file _) => pure (d.eraseNode names)
  | some .directory => throw .isDirectory
  | none => throw .notFound

/-! ### Directories -/

/-- Make a directory within one that is there. -/
def makeDirectory (d : Disk) (names : List String) : Except DiskError Disk := do
  d.walk [] names
  match d.node? names with
  | some _ => throw .alreadyExists
  | none => pure (d.setNode names .directory)

/-- Make a directory, unless it is there. -/
def ensureDirectory (d : Disk) (names : List String) : Except DiskError Disk :=
  match d.makeDirectory names with
  | .ok d => .ok d
  | .error e => if (d.node? names).any Node.isDirectory then .ok d else .error e

/-- Make a directory and those above it that are missing; the names come last one first. -/
def makeUpwards (d : Disk) : List String → Except DiskError Unit × Disk
  | [] => (.ok (), d)
  | name :: above =>
    match d.ensureDirectory (name :: above).reverse with
    | .ok d => (.ok (), d)
    | .error .notFound =>
      -- a directory above is missing; what has been made there stays, even if more fails
      match makeUpwards d above with
      | (.error e, d) => (.error e, d)
      | (.ok (), d) =>
        match d.ensureDirectory (name :: above).reverse with
        | .ok d => (.ok (), d)
        | .error e => (.error e, d)
    | .error e => (.error e, d)

/-- Make a directory with all that are missing above it. -/
def makeDirectories (d : Disk) (path : String) : Except DiskError Unit × Disk :=
  if path.contains '\x00' then (.error .zeroInName, d)
  else if maxPath < path.utf8ByteSize then (.error .nameTooLong, d)
  else d.makeUpwards (Path.components path).reverse

/-! ### Listing -/

/-- All files below a directory, by their paths from there, in the order of these. -/
def files (d : Disk) (dir : String) : List (String × ByteArray) :=
  let above := Path.components dir
  let found := d.nodes.filterMap fun e =>
    match e.2 with
    | .file bytes =>
      if above.isPrefixOf e.1 then some ("/".intercalate (e.1.drop above.length), bytes) else none
    | .directory => none
  found.mergeSort fun a b => decide (utf8 a.1 ≤ utf8 b.1)

end Disk

end Scrollback
