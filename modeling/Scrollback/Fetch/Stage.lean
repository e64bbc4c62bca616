/-
The stages of a fetch, in the order in which they are entered; every target has a writing and a
reading stage of its own.
-/
import Scrollback.Text.Decimal

namespace Scrollback

/-- How far a fetch has come. -/
inductive FetchStage where
  | resolving
  | connecting
  | handshaking
  | writing (index : Nat)
  | reading (index : Nat)
  | shuttingDown
  | closed
  deriving DecidableEq, Repr

/-- A stage as text. -/
def FetchStage.text : FetchStage → String
  | .resolving => "resolving"
  | .connecting => "connecting"
  | .handshaking => "handshaking"
  | .writing i => "writing[" ++ decimal i ++ "]"
  | .reading i => "reading[" ++ decimal i ++ "]"
  | .shuttingDown => "shutting down"
  | .closed => "closed"

end Scrollback
