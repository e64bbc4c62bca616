/-
What a fetch hands over.  It asks for its targets one after the other, so the logs that it hands
over are those of the first of them, in their order (`Fetch.ids_logs_run`).  A fetch that succeeds,
or fails only when it is shutting down, hands over a log for each of them
(`Fetch.length_logs_run`); one that fails hands over its failure last (`Fetch.notices_run`).  Where
a service answers every question the logs are what it answers (`Network.Serves.logs_run`).
-/
import Scrollback.Proofs.Fetch.Course

namespace Scrollback

@[simp] theorem Service.id_parse (s : Service) (id : LogId) (body : String) :
    (s.parse id body).id = id := by
  rw [Service.parse]
  split <;> rfl

namespace Fetch

variable {f : Fetch} {net : Network}

/-! ### What is handed over -/

/-- A fetch hands over logs, and after them its failure if it ends with one. -/
theorem notices_run (f : Fetch) (net : Network) :
    (f.run net).notices = (f.run net).logs.map .log ++ failureOf (f.run net).result := by
  by_cases none : f.targets = []
  · rw [run_of_nil none]
    rfl
  · exact (delivers_run none).notices

/-- The logs that are handed over are those of the first targets. -/
theorem ids_logs_run (f : Fetch) (net : Network) :
    (f.run net).logs.map Log.id <+: f.targets.map Target.id := by
  by_cases none : f.targets = []
  · rw [run_of_nil none]
    exact List.nil_prefix
  · rw [List.prefix_iff_getElem?]
    intro i hi
    rw [List.length_map] at hi
    obtain ⟨t, next, q, body, -, -, -, log⟩ := (delivers_run none).answered i hi
    rw [List.getElem?_map, next, List.getElem_map, ← log, Service.id_parse]
    rfl

theorem length_logs_run_le (f : Fetch) (net : Network) :
    (f.run net).logs.length ≤ f.targets.length := by
  simpa using (f.ids_logs_run net).length_le

/-- A failure at the end of the conversation comes after the logs of all targets. -/
theorem Fails.all_of_late {k : Nat} {e : FetchError} (h : f.Fails net k e)
    (late : e.stage = .shuttingDown) : k = f.targets.length := by
  cases h with
  | resolve | noAddress | connect | secure | greet => cases late
  | target greets next refused => cases refused <;> cases late
  | conversation | brokenOff | shutdown => rfl

/-- A fetch that succeeds, or fails when it is shutting down, hands over a log for every target. -/
theorem length_logs_run
    (late : (f.run net).result = .ok () ∨ (f.run net).stage = .shuttingDown) :
    (f.run net).logs.length = f.targets.length := by
  by_cases none : f.targets = []
  · rw [run_of_nil none, none]
    rfl
  · have delivers := @delivers_run f net none
    rcases result : (f.run net).result with e | ⟨⟩
    · obtain ⟨stage, fails⟩ := delivers.failed e result
      rw [result, stage] at late
      exact fails.all_of_late (late.resolve_left (by rintro ⟨⟩))
    · exact (delivers.ok_iff.mp result).1

end Fetch

/-! ### A service that answers -/

/-- The log that a service gives for a target, if it answers by a body. -/
def Service.served (s : Service) (body : Target → List UInt8) (t : Target) : Log :=
  s.parse t.id (lossyText (body t))

/-- A service at an endpoint answers every question for some targets, each by a body of its own,
whatever was asked before. -/
structure Network.Serves (net : Network) (e : Endpoint) (body : Target → List UInt8)
    (ts : List Target) : Prop where
  reached : ∃ addresses, net.addresses e.host e.port = .ok addresses ∧
    ∃ address ∈ addresses, net.connect address = .ok ()
  greeted : net.secure e.host = .ok () ∧ net.greet = .ok ()
  answers : ∀ t ∈ ts, ∃ q, net.frame (.make e.host e.port t.path) = .ok q ∧
    ∀ index, net.send index q = .ok () ∧ net.receive index q = .ok (body t)

namespace Network.Serves

variable {net : Network} {e : Endpoint} {body : Target → List UInt8} {ts : List Target}

theorem mono {others : List Target} (h : net.Serves e body ts) (sub : ∀ t ∈ others, t ∈ ts) :
    net.Serves e body others where
  reached := h.reached
  greeted := h.greeted
  answers := fun t ht => h.answers t (sub t ht)

/-- What comes of the questions for some targets. -/
theorem converse_eq (f : Fetch) (host : f.host = e.host) (port : f.port = e.port)
    (h : net.Serves e body ts) (index : Nat) (p : Progress) :
    (f.converse net index ts p).1 = .ok () ∧
      (f.converse net index ts p).2.notices =
        (ts.map fun t => Notice.log (f.service.served body t)).reverse ++ p.notices := by
  induction ts generalizing index p with
  | nil => exact ⟨rfl, rfl⟩
  | cons t ts ih =>
    obtain ⟨q, made, asked⟩ := h.answers t List.mem_cons_self
    obtain ⟨sent, received⟩ := asked index
    obtain ⟨ok, notices⟩ := ih (h.mono fun _ => List.mem_cons_of_mem t) (index + 1)
      (((p.enter (.writing index)).enter (.reading index)).give
        (.log (f.service.parse t.id (lossyText (body t)))))
    rw [Fetch.converse, host, port, made]
    dsimp only
    rw [sent]
    dsimp only
    rw [received]
    dsimp only
    refine ⟨ok, ?_⟩
    rw [notices]
    simp [Progress.give, Progress.enter, Service.served]

/-- What is handed over up to the end of the conversation. -/
theorem notices_stages (h : net.Serves e body ts) (service : Service) :
    ((⟨service, e.host, e.port, ts⟩ : Fetch).stages net .start).2.notices =
      (ts.map fun t => Notice.log (service.served body t)).reverse := by
  obtain ⟨addresses, found, address, mem, reached⟩ := h.reached
  have resolved : (⟨service, e.host, e.port, ts⟩ : Fetch).resolve net = .ok addresses := by
    rw [Fetch.resolve]
    dsimp only
    rw [found]
    rcases addresses with - | ⟨first, rest⟩
    · cases mem
    · rfl
  have greeted : (⟨service, e.host, e.port, ts⟩ : Fetch).greet net = .ok () := by
    rw [Fetch.greet]
    dsimp only
    rw [h.greeted.1, h.greeted.2]
    rfl
  have connected := @Fetch.connect_eq_ok ⟨service, e.host, e.port, ts⟩ net addresses address mem
    reached "no address tried"
  rw [Fetch.stages]
  dsimp only
  rw [resolved]
  dsimp only
  rw [connected]
  dsimp only
  rw [greeted]
  dsimp only
  obtain ⟨ok, notices⟩ := converse_eq ⟨service, e.host, e.port, ts⟩ rfl rfl h 0
    (((Progress.start.enter .resolving).enter .connecting).enter .handshaking)
  split
  · next spoken =>
    rw [spoken] at ok
    cases ok
  · next spoken =>
    rw [spoken] at notices
    exact notices.trans (List.append_nil _)

/-- All targets are answered, whatever comes of the end of the conversation. -/
theorem logs_run (h : net.Serves e body ts) (service : Service) :
    ((⟨service, e.host, e.port, ts⟩ : Fetch).run net).logs = ts.map (service.served body) := by
  have given := h.notices_stages service
  have all : (ts.map fun t => Notice.log (service.served body t)) =
      (ts.map (service.served body)).map .log := by
    rw [List.map_map]
    rfl
  rw [all] at given
  rw [Fetch.run]
  split
  · next none =>
    obtain rfl : ts = [] := List.isEmpty_iff.mp none
    rfl
  · split
    · next ended =>
      rw [ended] at given
      refine @Fetch.logs_of_notices _ _ (.ok ()) ?_
      rw [given, List.reverse_reverse]
      exact (List.append_nil _).symm
    · next error p ended =>
      rw [ended] at given
      refine @Fetch.logs_of_notices _ _ (.error error) ?_
      show (Notice.failure error :: p.notices).reverse = _
      rw [given, List.reverse_cons, List.reverse_reverse]
      rfl

end Network.Serves

end Scrollback
