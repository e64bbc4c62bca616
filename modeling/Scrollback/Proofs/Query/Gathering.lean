/-
What gathering comes to.  The store and a fetch give one part for every target, unless the fetch
fails before its last target (`Surroundings.Supplies`).  So the batch of a query, which waits for as
many parts as there are targets, is done with all of them or has failed, and there is one outcome in
either case (`Surroundings.outcomes_gather`).
-/
import Scrollback.Proofs.Batch.Course
import Scrollback.Proofs.Fetch.Delivery
import Scrollback.Proofs.Store.Origin
import Scrollback.Query.Run

namespace Scrollback

variable {σ π ω : Type}

/-! ### Looking up -/

/-- The store does not have a log, or cannot read it. -/
def Store.lacks (s : Store) (d : Disk) (id : LogId) : Bool :=
  match (s.load d id).1 with
  | .ok (some _) => false
  | .ok none => true
  | .error _ => true

theorem Store.lacks_of_load {s : Store} {d : Disk} {id : LogId} {log : Log}
    (loaded : (s.load d id).1 = .ok (some log)) : s.lacks d id = false := by
  rw [lacks, loaded]

theorem Store.exists_load_of_lacks {s : Store} {d : Disk} {id : LogId}
    (h : s.lacks d id = false) : ∃ log, (s.load d id).1 = .ok (some log) := by
  rw [lacks] at h
  split at h
  · next log loaded => exact ⟨log, loaded⟩
  · cases h
  · cases h

namespace Lookup

variable {now : Instant} {d : Disk} {s : Store} {t : Target}

/-- The store that the next target meets: only a settled one is loaded before it. -/
def next (now : Instant) (d : Disk) (t : Target) (s : Store) : Store :=
  if t.id.settled now then (s.load d t.id).2.1 else s

/-- A target is to be fetched if it is not settled, or if the store that it meets does not have its
log or cannot read it. -/
def wants (now : Instant) (d : Disk) (v : Target × Store) : Bool :=
  !v.1.id.settled now || v.2.lacks d v.1.id

/-- A target that need not be fetched is settled, and the store gives its log. -/
theorem given_of_wants (h : wants now d (t, s) = false) :
    t.id.settled now = true ∧ ∃ log, (s.load d t.id).1 = .ok (some log) := by
  obtain ⟨settled, given⟩ := Bool.or_eq_false_iff.mp h
  exact ⟨by simpa using settled, Store.exists_load_of_lacks given⟩

/-- A log that the store gives is taken. -/
theorem within_of_given {log : Log} (settled : t.id.settled now = true)
    (given : (s.load d t.id).1 = .ok (some log)) (rest : List Target) :
    within now d s (t :: rest) =
      ((within now d (next now d t s) rest).1.addStored log,
        (within now d (next now d t s) rest).2) := by
  rw [within, next, if_pos settled, if_pos settled]
  have disk := s.disk_load d t.id
  rcases loaded : s.load d t.id with ⟨r, s', d'⟩
  rw [loaded] at given disk
  obtain rfl : r = .ok (some log) := given
  obtain rfl : d' = d := disk
  rfl

/-- A target that is to be fetched is missing, for whatever reason. -/
theorem within_of_wants (h : wants now d (t, s) = true) (rest : List Target) :
    within now d s (t :: rest) =
      ((within now d (next now d t s) rest).1.addMissing t,
        (within now d (next now d t s) rest).2) := by
  rw [within, next]
  split
  · next settled =>
    have lacks : s.lacks d t.id = true := by
      rwa [wants, settled] at h
    have disk := s.disk_load d t.id
    rcases loaded : s.load d t.id with ⟨cause | - | log, s', d'⟩
    · rw [loaded] at disk
      obtain rfl : d' = d := disk
      rfl
    · rw [loaded] at disk
      obtain rfl : d' = d := disk
      rfl
    · rw [Store.lacks_of_load (congrArg Prod.fst loaded)] at lacks
      cases lacks
  · rfl

end Lookup

/-- Every target is either stored or missing. -/
theorem Lookup.length_within (now : Instant) (d : Disk) (s : Store) (targets : List Target) :
    (within now d s targets).1.stored.length + (within now d s targets).1.missing.length =
      targets.length := by
  induction targets generalizing s with
  | nil => rfl
  | cons t rest ih =>
    rcases wanted : wants now d (t, s) with - | -
    · obtain ⟨settled, log, given⟩ := given_of_wants wanted
      rw [within_of_given settled given]
      exact (Nat.add_right_comm ..).trans (congrArg (· + 1) (ih _))
    · rw [within_of_wants wanted]
      exact congrArg (· + 1) (ih _)

/-- Looking targets up writes nothing. -/
theorem Lookup.disk_within (now : Instant) (d : Disk) (s : Store) (targets : List Target) :
    (within now d s targets).2.2 = d := by
  induction targets generalizing s with
  | nil => rfl
  | cons t rest ih =>
    rcases wanted : wants now d (t, s) with - | -
    · obtain ⟨settled, log, given⟩ := given_of_wants wanted
      rw [within_of_given settled given]
      exact ih _
    · rw [within_of_wants wanted]
      exact ih _

theorem Lookup.disk_find (now : Instant) (d : Disk) (targets : List Target) (s : Option Store) :
    (find now d targets s).2.2 = d := by
  rcases s with - | s
  · rfl
  · exact disk_within now d s targets

theorem Lookup.length_find (now : Instant) (d : Disk) (targets : List Target) (s : Option Store) :
    (find now d targets s).1.stored.length + (find now d targets s).1.missing.length =
      targets.length := by
  rcases s with - | s
  · exact Nat.zero_add _
  · exact length_within now d s targets

namespace Gathering

variable {g : Collector σ π ω} {n : Nat} {s : Gathering σ ω} {parts : List π}

/-! ### Parts of a batch -/

/-- The batch has accepted these parts, and nothing else. -/
def Holds (g : Collector σ π ω) (n : Nat) (s : Gathering σ ω) (parts : List π) : Prop :=
  ∃ fired, Batch.Course g n () (parts.map .complete) s.batch fired ∧
    s.outcomes = fired.map Prod.snd

theorem holds_start (g : Collector σ π ω) (n : Nat) : Holds g n (start g n) [] :=
  ⟨_, .new g n (), rfl⟩

/-- A batch that misses parts accepts one more. -/
theorem Holds.add (h : Holds g n s parts) (few : parts.length < n) (part : π) :
    Holds g n (s.add g part) (parts ++ [part]) := by
  obtain ⟨fired, course, outcomes⟩ := h
  have accepted : (s.batch.call g (.complete part)).1 = true := by
    rcases course.of_parts with ⟨-, -, batch⟩ | ⟨all, -⟩
    · rw [Batch.call_eq_true, batch]
    · exact absurd all few.ne
  have next := course.call (.complete part)
  rw [accepted, if_pos rfl] at next
  rw [Holds, List.map_append]
  refine ⟨_, next, ?_⟩
  rw [List.map_append, ← outcomes]
  rfl

/-- Logs that are handed over add their parts, as long as there is room for them. -/
theorem Holds.receive (h : Holds g n s parts) (part : Log → π) (keeps : Log → Bool)
    (logs : List Log) (room : parts.length + logs.length ≤ n) :
    Holds g n ((logs.map .log).foldl (receive g part keeps) s) (parts ++ logs.map part) := by
  induction logs generalizing s parts with
  | nil =>
    rw [List.map_nil, List.map_nil, List.append_nil]
    exact h
  | cons log logs ih =>
    rw [List.length_cons] at room
    -- whether a log is to be stored is nothing to the batch
    have kept : Holds g n (if keeps log then s.keep log else s) parts := by
      split
      · exact h
      · exact h
    have added := kept.add (by omega) (part log)
    rw [List.map_cons, List.foldl_cons, List.map_cons, List.append_cons]
    refine ih added ?_
    rw [List.length_append, List.length_singleton]
    omega

/-- A batch that has all parts is done with them, -/
theorem Holds.outcomes_of_all (h : Holds g n s parts) (all : parts.length = n) :
    s.outcomes = [.done (g.finish (parts.foldl g.fold g.start))] := by
  obtain ⟨fired, course, outcomes⟩ := h
  rcases course.of_parts with ⟨few, -⟩ | ⟨-, rfl, -⟩
  · exact absurd all few.ne
  · exact outcomes

/-- and a failure is nothing to it any more, -/
theorem Holds.outcomes_abandon_of_all (h : Holds g n s parts) (all : parts.length = n)
    (reason : String) : (s.abandon reason).outcomes = s.outcomes := by
  obtain ⟨fired, course, -⟩ := h
  rcases course.of_parts with ⟨few, -⟩ | ⟨-, -, batch⟩
  · exact absurd all few.ne
  · rw [abandon, batch]
    exact List.append_nil _

/-- but it is the outcome of a batch that misses parts. -/
theorem Holds.outcomes_abandon (h : Holds g n s parts) (few : parts.length < n) (reason : String) :
    (s.abandon reason).outcomes = [.failed reason] := by
  obtain ⟨fired, course, outcomes⟩ := h
  rcases course.of_parts with ⟨-, rfl, batch⟩ | ⟨all, -⟩
  · rw [abandon, batch, outcomes]
    rfl
  · exact absurd all few.ne

/-- Of the logs that a fetch hands over the ones that can be kept are to be stored. -/
theorem fresh_receive (s : Gathering σ ω) (g : Collector σ π ω) (part : Log → π)
    (keeps : Log → Bool) (f : Fetch) (net : Network) :
    ((f.run net).notices.foldl (receive g part keeps) s).fresh =
      s.fresh ++ (f.run net).logs.filter keeps := by
  have all : ∀ logs : List Log, ((logs.map .log).foldl (receive g part keeps) s).fresh =
      s.fresh ++ logs.filter keeps := by
    intro logs
    induction logs generalizing s with
    | nil => exact (List.append_nil _).symm
    | cons log logs ih =>
      rw [List.map_cons, List.foldl_cons, ih, receive, List.filter_cons]
      split
      · exact (List.append_cons ..).symm
      · rfl
  rw [Fetch.notices_run, List.foldl_append]
  rcases (f.run net).result with cause | ⟨⟩
  · exact all _
  · exact all _

end Gathering

namespace Surroundings

variable (w : Surroundings)

/-! ### Supplies -/

/-- The fetch of some targets from a service. -/
def fetch (service : Service) (e : Endpoint) (targets : List Target) : Fetched :=
  (⟨service, e.host, e.port, targets⟩ : Fetch).run w.network

/-- Which targets a shelf has. -/
def lookup (targets : List Target) (shelf : Shelf) : Lookup :=
  (Lookup.find w.now shelf.disk targets shelf.store).1

/-- What the shelf and the service supply for some targets: a log for each of them, or the reason
why there is none for one of them. -/
inductive Supplies (service : Service) (targets : List Target) (shelf : Shelf) :
    Except String (List Log) → Prop
  /-- All logs are stored. -/
  | stored (all : (w.lookup targets shelf).missing = []) :
    Supplies service targets shelf (.ok (w.lookup targets shelf).stored)
  /-- There is nowhere to ask for those that are missing. -/
  | unserved (some : (w.lookup targets shelf).missing ≠ [])
    (nowhere : w.endpoint? service = none) :
    Supplies service targets shelf (.error ("no endpoint configured for " ++ service.name))
  /-- The fetch fails before it has handed over the last one that is missing. -/
  | undelivered {e : Endpoint} {cause : FetchError}
    (served : w.endpoint? service = .some e)
    (failed : (w.fetch service e (w.lookup targets shelf).missing).result = .error cause)
    (early : (w.fetch service e (w.lookup targets shelf).missing).logs.length <
      (w.lookup targets shelf).missing.length) :
    Supplies service targets shelf (.error cause.message)
  /-- The fetch hands over all that are missing, whatever becomes of it then. -/
  | delivered {e : Endpoint} (some : (w.lookup targets shelf).missing ≠ [])
    (served : w.endpoint? service = .some e)
    (all : (w.fetch service e (w.lookup targets shelf).missing).logs.length =
      (w.lookup targets shelf).missing.length) :
    Supplies service targets shelf (.ok ((w.lookup targets shelf).stored ++
      (w.fetch service e (w.lookup targets shelf).missing).logs))

theorem exists_supplies (service : Service) (targets : List Target) (shelf : Shelf) :
    ∃ r, w.Supplies service targets shelf r := by
  by_cases all : (w.lookup targets shelf).missing = []
  · exact ⟨_, .stored all⟩
  · rcases served : w.endpoint? service with - | e
    · exact ⟨_, .unserved all served⟩
    · -- a fetch that hands over fewer logs has failed
      rcases (Fetch.length_logs_run_le
        ⟨service, e.host, e.port, (w.lookup targets shelf).missing⟩ w.network).lt_or_eq with
        early | late
      · rcases failed : (w.fetch service e (w.lookup targets shelf).missing).result with
          cause | ⟨⟩
        · exact ⟨_, .undelivered served failed early⟩
        · exact absurd (Fetch.length_logs_run (.inl failed)) early.ne
      · exact ⟨_, .delivered all served late⟩

/-! ### Outcomes -/

/-- The outcome that supplied logs come to. -/
def outcomeOf (g : Collector σ π ω) (part : Log → π) : Except String (List Log) → Outcome ω
  | .error reason => .failed reason
  | .ok logs => .done (g.finish ((logs.map part).foldl g.fold g.start))

/-- The gathering of parts when those of the stored logs have been taken in. -/
def taken (g : Collector σ π ω) (part : Log → π) (targets : List Target) (shelf : Shelf) :
    Gathering σ ω :=
  (w.lookup targets shelf).stored.foldl (fun s log => s.add g (part log))
    (.start g targets.length)

/-- The shelf when targets have been looked up. -/
def lookedUp (targets : List Target) (shelf : Shelf) : Shelf :=
  let found := Lookup.find w.now shelf.disk targets shelf.store
  ⟨found.2.1, found.2.2⟩

theorem disk_lookedUp (targets : List Target) (shelf : Shelf) :
    (w.lookedUp targets shelf).disk = shelf.disk :=
  Lookup.disk_find ..

theorem gather_eq (g : Collector σ π ω) (part : Log → π) (service : Service)
    (targets : List Target) (shelf : Shelf) :
    w.gather g part service targets shelf =
      if (w.lookup targets shelf).missing.isEmpty then
        ⟨(w.taken g part targets shelf).outcomes, [], [], w.lookedUp targets shelf⟩
      else
        match w.endpoint? service with
        | none =>
          ⟨((w.taken g part targets shelf).abandon
            ("no endpoint configured for " ++ service.name)).outcomes, [], [],
            w.lookedUp targets shelf⟩
        | some e =>
          let state := (w.fetch service e (w.lookup targets shelf).missing).notices.foldl
            (Gathering.receive g part (w.keeps (w.lookedUp targets shelf).store))
            (w.taken g part targets shelf)
          ⟨state.outcomes, (w.lookup targets shelf).missing, state.fresh,
            save (w.lookedUp targets shelf) state.fresh⟩ := rfl

variable {w}

/-- The logs of the store are taken in first. -/
theorem holds_taken (g : Collector σ π ω) (part : Log → π) (targets : List Target)
    (shelf : Shelf) :
    Gathering.Holds g targets.length (w.taken g part targets shelf)
      ((w.lookup targets shelf).stored.map part) := by
  have length := Lookup.length_find w.now shelf.disk targets shelf.store
  have room : ([] : List π).length + (w.lookup targets shelf).stored.length ≤ targets.length := by
    rw [List.length_nil, lookup]
    omega
  have held := (Gathering.holds_start g targets.length).receive part (fun _ => false)
    (w.lookup targets shelf).stored room
  rw [List.foldl_map] at held
  exact held

/-- Gathering has one outcome, and that is what the supplied logs come to. -/
theorem outcomes_gather {service : Service} {targets : List Target} {shelf : Shelf}
    {r : Except String (List Log)} (h : w.Supplies service targets shelf r)
    (g : Collector σ π ω) (part : Log → π) :
    (w.gather g part service targets shelf).outcomes = [outcomeOf g part r] := by
  have length : (w.lookup targets shelf).stored.length + (w.lookup targets shelf).missing.length =
    targets.length := Lookup.length_find ..
  have held := w.holds_taken g part targets shelf
  rw [gather_eq]
  cases h with
  | stored all =>
    rw [all, List.length_nil, Nat.add_zero, ← List.length_map part] at length
    rw [if_pos (List.isEmpty_iff.mpr all)]
    exact held.outcomes_of_all length
  | unserved some nowhere =>
    have few := List.length_pos_iff.mpr some
    rw [if_neg (mt List.isEmpty_iff.mp some), nowhere]
    refine held.outcomes_abandon ?_ _
    rw [List.length_map]
    omega
  | @undelivered e cause served failed early =>
    have some : (w.lookup targets shelf).missing ≠ [] := by
      intro none
      rw [none] at early
      exact absurd early (Nat.not_lt_zero _)
    rw [if_neg (mt List.isEmpty_iff.mp some), served]
    dsimp only
    rw [fetch] at failed early ⊢
    rw [Fetch.notices_run, failed, List.foldl_append]
    refine (held.receive part _ _ ?_).outcomes_abandon ?_ _
    · rw [List.length_map]
      omega
    · rw [List.length_append, List.length_map, List.length_map]
      omega
  | @delivered e some served all =>
    rw [if_neg (mt List.isEmpty_iff.mp some), served]
    dsimp only
    rw [fetch] at all ⊢
    have held := held.receive part (w.keeps (w.lookedUp targets shelf).store)
      ((⟨service, e.host, e.port, (w.lookup targets shelf).missing⟩ : Fetch).run w.network).logs
      (by rw [List.length_map]; omega)
    rw [← List.map_append] at held
    have full := held.outcomes_of_all (by rw [List.length_map, List.length_append]; omega)
    rw [Fetch.notices_run, List.foldl_append]
    rcases ended : ((⟨service, e.host, e.port, (w.lookup targets shelf).missing⟩ :
      Fetch).run w.network).result with cause | ⟨⟩
    · -- the failure comes too late to be one of the batch
      refine (held.outcomes_abandon_of_all ?_ cause.message).trans full
      rw [List.length_map, List.length_append]
      omega
    · exact full

end Surroundings

end Scrollback
