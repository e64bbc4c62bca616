/-
Why the store refuses something.
-/
import Scrollback.Codec.Error

namespace Scrollback

/-- The causes of failure of the store; paths are those of the files concerned. -/
inductive StoreError where
  /-- A log that is not valid is never stored. -/
  | invalidLog (id : LogId)
  /-- There is no log in memory to be written. -/
  | notLoaded (id : LogId)
  /-- A file holds another log than it should. -/
  | mismatch (path : String) (expected found : LogId)
  | disk (path : String) (cause : DiskError)
  /-- The list of files is not well formed. -/
  | bookkeeping
  | codec (path : String) (cause : CodecError)
  deriving DecidableEq, Repr

/-- The wording of a failure. -/
def StoreError.message : StoreError → String
  | .invalidLog id => "refusing to store invalid log " ++ id.text
  | .notLoaded id => "log " ++ id.text ++ " is not loaded"
  | .mismatch path expected found =>
    path ++ " holds log " ++ found.text ++ ", expected " ++ expected.text
  | .disk path cause => "i/o error on " ++ path ++ ": " ++ cause.message
  | .bookkeeping => "bookkeeping error"
  | .codec path cause => "codec error on " ++ path ++ ": " ++ cause.message

end Scrollback
