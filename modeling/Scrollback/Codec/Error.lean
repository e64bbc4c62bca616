/-
Why a log cannot be written or read back.
-/
import Scrollback.Codec.Format
import Scrollback.Disk.Error

namespace Scrollback

/-- The parts of a stored log, by the names that messages give them. -/
inductive CodecPart where
  | preamble
  | header
  | channel
  | user
  | nameBlob
  | messageBlob
  | nameTable
  | lineArrays
  | timestamps
  | authorIndices
  | messageTable
  deriving DecidableEq, Repr

def CodecPart.text : CodecPart → String
  | .preamble => "preamble"
  | .header => "header"
  | .channel => "channel"
  | .user => "user"
  | .nameBlob => "name blob"
  | .messageBlob => "message blob"
  | .nameTable => "name table"
  | .lineArrays => "line arrays"
  | .timestamps => "timestamps"
  | .authorIndices => "author indices"
  | .messageTable => "message table"

/-- The causes of failure when a log is written or read. -/
inductive CodecError where
  /-- The file could not be read or written at all. -/
  | disk (cause : DiskError)
  /-- A log that is not valid is never written. -/
  | invalidLog
  /-- A number is greater than the mode allows. -/
  | overflow (value : Nat) (mode : Mode)
  /-- A line's author is not among the names. -/
  | unknownAuthor (name : String)
  | unknownFormat (tag : UInt8)
  | unknownOrder (tag : UInt8)
  /-- The file was written in the other byte order. -/
  | foreignOrder (order : ByteOrder)
  /-- The file ends inside a part. -/
  | truncated (part : CodecPart)
  /-- A part that must be there is absent. -/
  | missingSection (part : CodecPart)
  /-- A line refers to a name that the table does not have. -/
  | authorIndex (index names : Nat)
  /-- A span leaves the text it belongs to, or cuts a character. -/
  | outOfBounds (part : CodecPart)
  | unsortedNames
  | notUtf8
  | time (cause : TimeError)
  deriving DecidableEq, Repr

/-- The wording of a failure. -/
def CodecError.message : CodecError → String
  | .disk cause => "i/o error: " ++ cause.message
  | .invalidLog => "cannot encode an invalid log"
  | .overflow value mode =>
    "value " ++ decimal value ++ " does not fit format mode " ++ mode.text
  | .unknownAuthor name => "author " ++ quoted name ++ " missing from the name table"
  | .unknownFormat tag => "unknown format mode tag " ++ decimal tag.toNat
  | .unknownOrder tag => "unknown endianness tag " ++ decimal tag.toNat
  | .foreignOrder order => "file written with " ++ order.text ++ " byte order"
  | .truncated part => "file truncated reading " ++ part.text
  | .missingSection part => "missing required section " ++ part.text
  | .authorIndex index names =>
    "author index " ++ decimal index ++ " out of range (" ++ decimal names ++ " names)"
  | .outOfBounds part => "span out of bounds in " ++ part.text
  | .unsortedNames => "name table is not sorted and unique"
  | .notUtf8 => "text is not valid UTF-8"
  | .time cause => cause.message

end Scrollback
