/-
The outside world as a fetch meets it: for every step that a fetch can take, what would come of it.
Nothing is assumed of the answers; a law about fetches holds for every network.
-/
import Scrollback.Fetch.Question

namespace Scrollback

/-- How a conversation ends that has not been broken off by a step of the fetch. -/
inductive Ending where
  | done
  | failed (reason : String)
  | brokenOff (reason : String)
  deriving DecidableEq, Repr

/-- How the stream of a conversation is closed. -/
inductive Closing where
  | done
  /-- The other side has closed it already, without notice. -/
  | cutShort
  | failed (reason : String)
  deriving DecidableEq, Repr

/-- What comes of every step of a fetch. -/
structure Network where
  /-- The addresses of a host and a port. -/
  addresses : String → Nat → Except String (List String)
  /-- A connection to an address. -/
  connect : String → Except String Unit
  /-- A secure stream to a host, over the connection. -/
  secure : String → Except String Unit
  /-- A conversation over the stream. -/
  greet : Except String Unit
  /-- The request that is made of a question, or why there can be none. -/
  frame : Question → Except String Question
  /-- The request of this number is sent. -/
  send : Nat → Question → Except String Unit
  /-- The whole answer to the request of this number is received. -/
  receive : Nat → Question → Except String (List UInt8)
  ending : Ending
  closing : Closing

namespace Network

/-- Every host is its own address, and every step succeeds; a request is answered by its path. -/
def serving (page : String → List UInt8) : Network where
  addresses host _ := .ok [host]
  connect _ := .ok ()
  secure _ := .ok ()
  greet := .ok ()
  frame := Question.framed
  send _ _ := .ok ()
  receive _ q := .ok (page q.path)
  ending := .done
  closing := .done

/-- Hosts have addresses, but none of these can be reached. -/
def unreachable : Network :=
  { serving fun _ => [] with
    connect := fun _ => .error "Network is unreachable (os error 101)" }

end Network

end Scrollback
