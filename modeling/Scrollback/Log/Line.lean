/-
Lines of their own.  A `Line` outlives the log that it was copied from: it owns one text with the author
in front and the message behind, and has a span for each of the two.  That the spans fit comes with the
line.
-/
import Scrollback.Log.Span
import Scrollback.Time.Instant

namespace Scrollback

/-- A line of its own, independent of any log. -/
structure Line where
  time : Instant
  buffer : String
  authorSpan : Span
  messageSpan : Span
  author_fits : authorSpan.Fits buffer
  message_fits : messageSpan.Fits buffer
  deriving DecidableEq

namespace Line

/-- Copy an author and a message into one text. -/
def make (time : Instant) (author message : String) : Line where
  time := time
  buffer := author ++ message
  authorSpan := ⟨0, author.utf8ByteSize⟩
  messageSpan := ⟨author.utf8ByteSize, message.utf8ByteSize⟩
  author_fits := Span.fits_front author message
  message_fits := Span.fits_back author message

/-- Who said it. -/
def author (l : Line) : String :=
  l.authorSpan.textIn l.buffer

/-- What was said. -/
def message (l : Line) : String :=
  l.messageSpan.textIn l.buffer

/-- `YYYY-MM-DD hh:mm:ss author: message`. -/
def text (l : Line) : String :=
  String.ofList l.time.text ++ " " ++ l.author ++ ": " ++ l.message

end Line

end Scrollback
