/-
Disks made from files, and what has changed between two disks.
-/
import Scrollback.Disk.Basic

namespace Scrollback

/-- The path of some components. -/
def Path.ofComponents : List String → String
  | "/" :: names => "/" ++ "/".intercalate names
  | names => "/".intercalate names

namespace Disk

/-- Nothing at all. -/
def empty : Disk := ⟨[]⟩

/-- Add a file, with the directories above it; one that cannot be there is left out. -/
def plant (d : Disk) (file : String × ByteArray) : Disk :=
  let (_, d) := d.makeDirectories ((Path.parent? file.1).getD "")
  (d.write file.1 file.2).toOption.getD d

/-- The disk with these files. -/
def ofFiles (files : List (String × ByteArray)) : Disk :=
  files.foldl plant empty

/-- The directories that there are now and were not before, the outer ones first. -/
def madeSince (now before : Disk) : List String :=
  let made := now.nodes.filterMap fun e =>
    if e.2.isDirectory && !(before.node? e.1).any Node.isDirectory then some e.1 else none
  (made.mergeSort fun a b => decide (a.length ≤ b.length)).map Path.ofComponents

/-- The files that are new or changed. -/
def writtenSince (now before : Disk) : List (String × ByteArray) :=
  now.nodes.filterMap fun e =>
    match e.2 with
    | .directory => none
    | .file bytes =>
      if (before.node? e.1).any fun n => n.holds bytes then none
      else some (Path.ofComponents e.1, bytes)

/-- The files that there were before and are no longer. -/
def removedSince (now before : Disk) : List String :=
  before.nodes.filterMap fun e =>
    if (now.node? e.1).isNone then some (Path.ofComponents e.1) else none

end Disk

end Scrollback
