/-
What is asked of a service for one target: a path, put to a host, and who asks.  The library that
sends the question makes a request of it first, or finds that it cannot.  Which one it is does not
matter here; `Question.framed` does what is documented of it, for paths from the root.
-/
import Scrollback.Text.Decimal
import Scrollback.Text.Utf8

namespace Scrollback

/-- A question: a path, the host that it is put to, and who puts it. -/
structure Question where
  path : String
  host : String
  agent : String
  deriving DecidableEq, Repr

namespace Question

/-- How the host is named: with its port, unless that is one of the usual two. -/
def hostName (host : String) (port : Nat) : String :=
  if port = 443 ∨ port = 80 then host else host ++ ":" ++ decimal port

/-- What this library calls itself. -/
def ownName : String := "chatlog/0.1.0"

/-- The question for a path. -/
def make (host : String) (port : Nat) (path : String) : Question :=
  ⟨path, hostName host port, ownName⟩

/-! ### Requests -/

/-- The greatest number of bytes in a path. -/
def maxPath : Nat := 65534

/-- A character that cannot stand in a path as it is: a control, a blank, an angle bracket or a
backtick. -/
def isForbidden (c : Char) : Bool :=
  c ≤ ' ' || c == '<' || c == '>' || c == '\x60'

/-- A character that cannot stand after the question mark: there, a quote cannot and a backtick
can. -/
def isForbiddenInQuery (c : Char) : Bool :=
  c ≤ ' ' || c == '"' || c == '<' || c == '>'

/-- A character that can stand in a header. -/
def isVisible (c : Char) : Bool :=
  ' ' ≤ c && c ≤ '~'

/-- The path without what follows a `#`. -/
def sentPath (q : Question) : List Char :=
  q.path.toList.takeWhile (· != '#')

/-- What comes in it before the question mark. -/
def beforeMark (q : Question) : List Char :=
  q.sentPath.takeWhile (· != '?')

/-- The request for a question with a path from the root, or why there is none. -/
def framed (q : Question) : Except String Question :=
  if q.path.isEmpty then .error "empty string"
  else if maxPath < q.path.utf8ByteSize then .error "uri too long"
  else if q.path.toList.head? ≠ some '/' then .error "invalid format"
  else if q.beforeMark.any isForbidden ||
      (q.sentPath.drop (q.beforeMark.length + 1)).any isForbiddenInQuery then
    .error "invalid uri character"
  else if !(q.host.toList.all isVisible && q.agent.toList.all isVisible) then
    .error "failed to parse header value"
  else .ok { q with path := String.ofList q.sentPath }

end Question

end Scrollback
