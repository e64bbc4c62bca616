/-
Fetching logs.  All targets of a fetch are asked for over one connection, one after the other: the
answer to a question is read as a log and handed over before the next question is put.  The first
failure ends the fetch and is handed over too; nothing comes after it and nothing is tried again.

`Fetch.run` gives the notices that its caller receives, in order, beside the result.
-/
import Scrollback.Fetch.Error
import Scrollback.Fetch.Network
import Scrollback.Log.Grammar

namespace Scrollback

/-- What is to be fetched, and from where. -/
structure Fetch where
  service : Service
  host : String
  port : Nat
  targets : List Target
  deriving Repr

/-- What a fetch hands over while it runs. -/
inductive Notice where
  | log (log : Log)
  | failure (error : FetchError)

/-- How far a fetch has come: the stage that it entered last, and what it has handed over, the
latest first. -/
structure Progress where
  stage : FetchStage
  notices : List Notice

namespace Progress

/-- Before the first stage. -/
def start : Progress := ⟨.resolving, []⟩

/-- Go on to a stage. -/
def enter (p : Progress) (s : FetchStage) : Progress :=
  { p with stage := s }

/-- Hand something over. -/
def give (p : Progress) (n : Notice) : Progress :=
  { p with notices := n :: p.notices }

end Progress

/-- What has become of a fetch. -/
structure Fetched where
  result : Except FetchError Unit
  stage : FetchStage
  /-- What was handed over, in order. -/
  notices : List Notice

namespace Fetched

/-- The logs that were handed over. -/
def logs (f : Fetched) : List Log :=
  f.notices.filterMap fun
    | .log log => some log
    | .failure _ => none

/-- The failures that were handed over. -/
def failures (f : Fetched) : List FetchError :=
  f.notices.filterMap fun
    | .log _ => none
    | .failure e => some e

end Fetched

namespace Fetch

variable (f : Fetch) (net : Network)

/-- The addresses of the host; there has to be one. -/
def resolve : Except FetchError (List String) :=
  match net.addresses f.host f.port with
  | .error why => .error (.resolve f.host why)
  | .ok [] => .error (.noAddress f.host)
  | .ok addresses => .ok addresses

/-- Connect to the first address that can be reached; if there is none, the reason is that of the
last one. -/
def connect (why : String) : List String → Except FetchError Unit
  | [] => .error (.connect f.host why)
  | address :: rest =>
    match net.connect address with
    | .ok () => .ok ()
    | .error why => connect why rest

/-- Begin the conversation. -/
def greet : Except FetchError Unit :=
  match net.secure f.host with
  | .error why => .error (.secure f.host why)
  | .ok () => net.greet.mapError .greet

/-- Put the questions for some targets, the first of them being the target of number `index`. -/
def converse (index : Nat) : List Target → Progress → Except FetchError Unit × Progress
  | [], p => (.ok (), p)
  | t :: rest, p =>
    let p := p.enter (.writing index)
    match net.frame (.make f.host f.port t.path) with
    | .error why => (.error (.question index why), p)
    | .ok q =>
      match net.send index q with
      | .error why => (.error (.write index why), p)
      | .ok () =>
        let p := p.enter (.reading index)
        match net.receive index q with
        | .error why => (.error (.read index why), p)
        | .ok body =>
          converse (index + 1) rest (p.give (.log (f.service.parse t.id (lossyText body))))

/-- End the conversation; the other side may have closed the stream before. -/
def finish : Except FetchError Unit :=
  match net.ending with
  | .failed why => .error (.conversation why)
  | .brokenOff why => .error (.brokenOff why)
  | .done =>
    match net.closing with
    | .failed why => .error (.shutdown why)
    | .done | .cutShort => .ok ()

/-- The stages of a fetch, one after the other, until one fails. -/
def stages (p : Progress) : Except FetchError Unit × Progress :=
  let p := p.enter .resolving
  match f.resolve net with
  | .error e => (.error e, p)
  | .ok addresses =>
    let p := p.enter .connecting
    match f.connect net "no address tried" addresses with
    | .error e => (.error e, p)
    | .ok () =>
      let p := p.enter .handshaking
      match f.greet net with
      | .error e => (.error e, p)
      | .ok () =>
        match f.converse net 0 f.targets p with
        | (.error e, p) => (.error e, p)
        | (.ok (), p) => (finish net, p.enter .shuttingDown)

/-- Fetch the targets in order; without any, nothing is done at all. -/
def run : Fetched :=
  if f.targets.isEmpty then ⟨.ok (), .closed, []⟩
  else
    match f.stages net .start with
    | (.ok (), p) => ⟨.ok (), .closed, p.notices.reverse⟩
    | (.error e, p) => ⟨.error e, p.stage, (p.give (.failure e)).notices.reverse⟩

end Fetch

end Scrollback
