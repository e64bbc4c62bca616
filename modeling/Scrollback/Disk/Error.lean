/-
Why the disk refuses something.
-/

namespace Scrollback

/-- The causes of failure of disk operations. -/
inductive DiskError where
  | notFound
  | alreadyExists
  | notDirectory
  | isDirectory
  | nameTooLong
  /-- No name holds a zero character. -/
  | zeroInName
  deriving DecidableEq, Repr

/-- The wording of a failure, with the system's number for it. -/
def DiskError.message : DiskError → String
  | .notFound => "No such file or directory (os error 2)"
  | .alreadyExists => "File exists (os error 17)"
  | .notDirectory => "Not a directory (os error 20)"
  | .isDirectory => "Is a directory (os error 21)"
  | .nameTooLong => "File name too long (os error 36)"
  | .zeroInName => "file name contained an unexpected NUL byte"

end Scrollback
