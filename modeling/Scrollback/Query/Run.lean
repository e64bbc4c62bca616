/-
Answering queries.  The parts of the logs that the store has come first; the other logs are fetched
together, and their parts follow as they arrive.  A failure of the fetch is the answer, unless all
parts have arrived before it.  Of the fetched logs, the valid and settled ones are stored in the end,
whether or not the fetch has failed.

Each step of a query may close its batch, and only the step that does so yields an outcome; a query
is answered for each outcome, in their order.
-/
import Scrollback.Fetch.Basic
import Scrollback.Paste
import Scrollback.Query.Basic
import Scrollback.Query.Lookup

namespace Scrollback

/-- What queries are answered with. -/
structure Surroundings where
  endpoint? : Service → Option Endpoint
  network : Network
  now : Instant
  /-- What comes of putting a text where others can read it. -/
  paste : String → Except PasteError String

/-- Logs that are kept between queries. -/
structure Shelf where
  store : Option Store
  disk : Disk

/-! ### Gathering the parts -/

/-- A batch under way, with the outcomes that it has yielded and the logs to be stored. -/
structure Gathering (σ ω : Type) where
  batch : Batch Unit σ
  outcomes : List (Outcome ω)
  fresh : List Log

namespace Gathering

variable {σ π ω : Type}

/-- Wait for so many parts. -/
def start (g : Collector σ π ω) (expected : Nat) : Gathering σ ω :=
  let (fire, b) := Batch.new g expected ()
  ⟨b, fire.toList.map Prod.snd, []⟩

/-- A part arrives. -/
def add (g : Collector σ π ω) (s : Gathering σ ω) (part : π) : Gathering σ ω :=
  let (_, fire, b) := s.batch.complete g part
  { s with batch := b, outcomes := s.outcomes ++ fire.toList.map Prod.snd }

/-- A failure arrives. -/
def abandon (s : Gathering σ ω) (reason : String) : Gathering σ ω :=
  let (_, fire, b) := s.batch.fail reason
  { s with batch := b, outcomes := s.outcomes ++ fire.toList.map Prod.snd }

/-- A log is to be stored. -/
def keep (s : Gathering σ ω) (log : Log) : Gathering σ ω :=
  { s with fresh := s.fresh ++ [log] }

/-- A fetch hands something over; a log is kept if it can be, and its part is added. -/
def receive (g : Collector σ π ω) (part : Log → π) (keeps : Log → Bool) (s : Gathering σ ω) :
    Notice → Gathering σ ω
  | .log log => (if keeps log then s.keep log else s).add g (part log)
  | .failure e => s.abandon e.message

end Gathering

/-! ### Running a query -/

/-- What has come of gathering the parts of a query. -/
structure Gathered (ω : Type) where
  outcomes : List (Outcome ω)
  /-- The targets that were fetched. -/
  asked : List Target
  /-- The fetched logs that were to be stored. -/
  fresh : List Log
  shelf : Shelf

namespace Surroundings

variable {σ π ω : Type} (w : Surroundings)

/-- A fetched log is stored if there is a store, if it is valid and if it is settled. -/
def keeps (store : Option Store) (log : Log) : Bool :=
  store.isSome && log.valid && log.id.settled w.now

/-- Store logs. -/
def save (shelf : Shelf) (logs : List Log) : Shelf :=
  match shelf.store with
  | none => shelf
  | some s =>
    if logs.isEmpty then shelf
    else
      let (_, s, d) := s.putAll shelf.disk logs
      ⟨some s, d⟩

/-- Gather the parts of the logs of some targets. -/
def gather (g : Collector σ π ω) (part : Log → π) (service : Service) (targets : List Target)
    (shelf : Shelf) : Gathered ω :=
  let (found, store, disk) := Lookup.find w.now shelf.disk targets shelf.store
  let shelf : Shelf := ⟨store, disk⟩
  let state := found.stored.foldl (fun s log => s.add g (part log)) (.start g targets.length)
  if found.missing.isEmpty then ⟨state.outcomes, [], [], shelf⟩
  else
    match w.endpoint? service with
    | none =>
      let state := state.abandon ("no endpoint configured for " ++ service.name)
      ⟨state.outcomes, [], [], shelf⟩
    | some e =>
      let fetch : Fetch := ⟨service, e.host, e.port, found.missing⟩
      let state := (fetch.run w.network).notices.foldl
        (Gathering.receive g part (w.keeps store)) state
      ⟨state.outcomes, found.missing, state.fresh, save shelf state.fresh⟩

/-- The answers to a query, of which there should be one, with the texts that were pasted for them
and what has become of the kept logs. -/
structure Answered where
  answers : List Answer
  pastes : List String
  shelf : Shelf

/-- Count the occurrences of what a query searches for. -/
def count (q : Query) (shelf : Shelf) : Answered :=
  match q.targets with
  | .error reason => ⟨[.failed reason], [], shelf⟩
  | .ok targets =>
    let gathered := w.gather .sum q.countPart q.service targets shelf
    let answers := gathered.outcomes.map fun
      | .done n => .count n
      | .failed reason => .failed reason
    ⟨answers, [], gathered.shelf⟩

/-- The text that an outcome asks to be pasted. -/
def pasteOf : Outcome (List Line) → Option String
  | .done lines => if lines.isEmpty then none else some (transcript lines)
  | .failed _ => none

/-- The answer that an outcome comes to. -/
def findAnswer (outcome : Outcome (List Line)) : Answer :=
  match outcome, pasteOf outcome with
  | .failed reason, _ => .failed reason
  | .done _, none => .noMatch
  | .done _, some text =>
    match w.paste text with
    | .ok location => .found location
    | .error e => .failed e.message

/-- Paste the matching lines, in the order of their times. -/
def find (q : Query) (shelf : Shelf) : Answered :=
  match q.targets with
  | .error reason => ⟨[.failed reason], [], shelf⟩
  | .ok targets =>
    let gathered := w.gather .lines q.linePart q.service targets shelf
    ⟨gathered.outcomes.map w.findAnswer, gathered.outcomes.filterMap pasteOf, gathered.shelf⟩

end Surroundings

end Scrollback
