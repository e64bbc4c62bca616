/-
Which logs a query has already: those of the store.  A log may only be kept, and a kept one only be
used, when its period is over, because until then lines may still be added to it.
-/
import Scrollback.Service
import Scrollback.Store.Basic

namespace Scrollback

/-- A period that is over: nothing is added to its logs any more. -/
def LogId.settled (id : LogId) (now : Instant) : Bool :=
  id.period.stop ≤ now.epochMillis

/-- The targets of a query, divided: the logs of those that the store has, and the others, both in
the order of the targets. -/
structure Lookup where
  stored : List Log
  missing : List Target

namespace Lookup

/-- One more log that the store has. -/
def addStored (l : Lookup) (log : Log) : Lookup :=
  { l with stored := log :: l.stored }

/-- One more target that the store does not have. -/
def addMissing (l : Lookup) (t : Target) : Lookup :=
  { l with missing := t :: l.missing }

/-- Look targets up in a store.  One that is not settled is not looked up, and one whose file cannot
be read counts as missing.  Looking up changes which logs are in memory. -/
def within (now : Instant) : Disk → Store → List Target → Lookup × Store × Disk
  | d, s, [] => (⟨[], []⟩, s, d)
  | d, s, t :: rest =>
    if t.id.settled now then
      match s.load d t.id with
      | (.ok (some log), s, d) =>
        let (l, s, d) := within now d s rest
        (l.addStored log, s, d)
      | (.ok none, s, d) | (.error _, s, d) =>
        let (l, s, d) := within now d s rest
        (l.addMissing t, s, d)
    else
      let (l, s, d) := within now d s rest
      (l.addMissing t, s, d)

/-- Look targets up; without a store, all of them are missing. -/
def find (now : Instant) (d : Disk) (targets : List Target) :
    Option Store → Lookup × Option Store × Disk
  | none => (⟨[], targets⟩, none, d)
  | some s =>
    let (l, s, d) := within now d s targets
    (l, some s, d)

end Lookup

end Scrollback
