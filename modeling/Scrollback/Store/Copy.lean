/-
One log in two places.  A `LogCopy` knows the log in memory, if it is there, and whether there is a
file of it on the disk.  Either copy can be dropped without the other; reading the file brings it
into memory, writing it does the reverse.
-/
import Scrollback.Codec.Decode
import Scrollback.Disk.Basic
import Scrollback.Store.Error

namespace Scrollback

/-- A log's file, and the copies of it that exist. -/
structure LogCopy where
  id : LogId
  path : String
  memory : Option Log
  stored : Bool

namespace LogCopy

/-- No copy in memory; there is one on the disk if there is a file. -/
def ofFile (d : Disk) (id : LogId) (path : String) : LogCopy :=
  ⟨id, path, none, d.isFile path⟩

/-- A copy in memory. -/
def ofLog (d : Disk) (log : Log) (path : String) : LogCopy :=
  { ofFile d log.id path with memory := some log }

/-- The log that a file holds, which must be the one that is expected. -/
def readFile (c : LogCopy) (d : Disk) : Except StoreError Log := do
  let node ← (d.find c.path).mapError (.disk c.path)
  let log ← match node with
    | .directory => throw (.codec c.path (.disk .isDirectory))
    | .file bytes => (Codec.decode bytes).mapError (.codec c.path)
  if log.id = c.id then pure log else throw (.mismatch c.path c.id log.id)

/-- The log, read from the file unless it is in memory. -/
def load (c : LogCopy) (d : Disk) : Except StoreError Log × LogCopy :=
  match c.memory with
  | some log => (.ok log, c)
  | none =>
    match c.readFile d with
    | .ok log => (.ok log, { c with memory := some log, stored := true })
    | .error e => (.error e, c)

/-- Drop the copy in memory. -/
def dropMemory (c : LogCopy) : LogCopy :=
  { c with memory := none }

/-- Write the log in memory to the file.  The directory is made if it is missing, and the file is
emptied before the log is encoded, so a log that cannot be encoded leaves it empty. -/
def save (c : LogCopy) (d : Disk) (mode : Option Mode) : Except StoreError Unit × LogCopy × Disk :=
  match c.memory with
  | none => (.error (.notLoaded c.id), c, d)
  | some log =>
    let dir := (Path.parent? c.path).getD ""
    match d.makeDirectories dir with
    | (.error e, d) => (.error (.disk dir e), c, d)
    | (.ok (), d) =>
      match d.write c.path ByteArray.empty with
      | .error e => (.error (.disk c.path e), c, d)
      | .ok d =>
        match Codec.encode log (mode.getD (Codec.narrowest log)) .native with
        | .error e => (.error (.codec c.path e), c, d)
        | .ok bytes =>
          match d.write c.path bytes.toByteArray with
          | .error e => (.error (.disk c.path e), c, d)
          | .ok d => (.ok (), { c with stored := true }, d)

/-- Remove the file; that it is missing already does not matter. -/
def dropFile (c : LogCopy) (d : Disk) : Except StoreError Unit × LogCopy × Disk :=
  match d.remove c.path with
  | .ok d => (.ok (), { c with stored := false }, d)
  | .error .notFound => (.ok (), { c with stored := false }, d)
  | .error e => (.error (.disk c.path e), c, d)

end LogCopy

end Scrollback
