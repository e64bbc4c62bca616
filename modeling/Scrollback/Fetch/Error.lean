/-
Why a fetch ends before it is complete, and the stage in which each of the causes arises.
-/
import Scrollback.Fetch.Stage
import Scrollback.Text.Decimal

namespace Scrollback

/-- The causes of failure of a fetch.  What the outside world says for a reason is kept as it is. -/
inductive FetchError where
  | resolve (host reason : String)
  | noAddress (host : String)
  | connect (host reason : String)
  | secure (host reason : String)
  | greet (reason : String)
  | question (index : Nat) (reason : String)
  | write (index : Nat) (reason : String)
  | read (index : Nat) (reason : String)
  | conversation (reason : String)
  /-- The conversation broke off without a reason of its own. -/
  | brokenOff (reason : String)
  | shutdown (reason : String)
  deriving DecidableEq, Repr

namespace FetchError

/-- The wording of a failure. -/
def message : FetchError → String
  | resolve host why => "resolving " ++ host ++ ": " ++ why
  | noAddress host => "no addresses found for " ++ host
  | connect host why => "connecting to " ++ host ++ ": " ++ why
  | secure host why => "tls handshake with " ++ host ++ ": " ++ why
  | greet why => "http handshake: " ++ why
  | question i why => "building request " ++ decimal i ++ ": " ++ why
  | write i why => "writing request " ++ decimal i ++ ": " ++ why
  | read i why => "reading response " ++ decimal i ++ ": " ++ why
  | conversation why => "connection failed during shutdown: " ++ why
  | brokenOff why => "connection task panicked: " ++ why
  | shutdown why => "shutting down: " ++ why

/-- The stage in which a failure arises. -/
def stage : FetchError → FetchStage
  | resolve .. | noAddress _ => .resolving
  | connect .. => .connecting
  | secure .. | greet _ => .handshaking
  | question i _ | write i _ => .writing i
  | read i _ => .reading i
  | conversation _ | brokenOff _ | shutdown _ => .shuttingDown

end FetchError

end Scrollback
