/-
Texts put where others can read them.  The directory of pastes gives every text a file of its own,
named for the time and for the number of texts before it.
-/
import Scrollback.Disk.Basic
import Scrollback.Text.Decimal

namespace Scrollback

/-- Why a text could not be put anywhere. -/
inductive PasteError where
  | disk (path : String) (cause : DiskError)
  /-- The place does not take it. -/
  | rejected (reason : String)
  deriving DecidableEq, Repr

/-- The wording of a failure. -/
def PasteError.message : PasteError → String
  | .disk path cause => "writing paste " ++ path ++ ": " ++ cause.message
  | .rejected reason => "paste rejected: " ++ reason

/-- A directory of pastes, and how many files it has been given. -/
structure PasteDir where
  dir : String
  count : Nat := 0

/-- Write a text to a new file: its path.  A file is counted once there is a directory for it. -/
def PasteDir.write (p : PasteDir) (d : Disk) (millis : Int) (body : ByteArray) :
    Except PasteError String × PasteDir × Disk :=
  match d.makeDirectories p.dir with
  | (.error e, d) => (.error (.disk p.dir e), p, d)
  | (.ok (), d) =>
    let name := "paste-" ++ signedDecimal millis ++ "-" ++ decimal p.count ++ ".txt"
    let path := Path.join p.dir name
    let p := { p with count := p.count + 1 }
    match d.write path body with
    | .ok d => (.ok path, p, d)
    | .error e => (.error (.disk path e), p, d)

end Scrollback
