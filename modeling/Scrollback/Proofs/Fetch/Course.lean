/-
The course of a fetch.  It takes its steps one after the other and stops at the first that fails; so
the logs that it hands over are the answers to its first questions, in order, and it hands over one
failure or none (`Fetch.run_delivers`).  `Fetch.Fails` has a case for each of the ways out, with
what came of the steps up to there.
-/
import Mathlib
import Scrollback.Fetch.Basic

namespace Scrollback.Fetch

variable {f : Fetch} {net : Network}

/-! ### What comes of the steps -/

/-- An address of the host can be reached. -/
def Reaches (f : Fetch) (net : Network) : Prop :=
  ∃ addresses, net.addresses f.host f.port = .ok addresses ∧
    ∃ address ∈ addresses, net.connect address = .ok ()

/-- A conversation can be begun. -/
structure Greets (f : Fetch) (net : Network) : Prop where
  reached : f.Reaches net
  secured : net.secure f.host = .ok ()
  greeted : net.greet = .ok ()

/-- The question for a target, under its number, is answered, and this is the log of the answer. -/
def Answers (f : Fetch) (net : Network) (index : Nat) (t : Target) (log : Log) : Prop :=
  ∃ q body, net.frame (.make f.host f.port t.path) = .ok q ∧ net.send index q = .ok () ∧
    net.receive index q = .ok body ∧ f.service.parse t.id (lossyText body) = log

/-- The question for a target, under its number, comes to no answer. -/
inductive Refuses (f : Fetch) (net : Network) (index : Nat) (t : Target) : FetchError → Prop
  | question {why : String} (made : net.frame (.make f.host f.port t.path) = .error why) :
    Refuses f net index t (.question index why)
  | write {q : Question} {why : String} (made : net.frame (.make f.host f.port t.path) = .ok q)
    (sent : net.send index q = .error why) : Refuses f net index t (.write index why)
  | read {q : Question} {why : String} (made : net.frame (.make f.host f.port t.path) = .ok q)
    (sent : net.send index q = .ok ()) (received : net.receive index q = .error why) :
    Refuses f net index t (.read index why)

/-- The conversation ends well and its stream is closed, by one side or the other. -/
def Closes (net : Network) : Prop :=
  net.ending = .done ∧ (net.closing = .done ∨ net.closing = .cutShort)

/-- Why a fetch fails when so many of its targets have been answered. -/
inductive Fails (f : Fetch) (net : Network) : Nat → FetchError → Prop
  | resolve {why : String} (found : net.addresses f.host f.port = .error why) :
    Fails f net 0 (.resolve f.host why)
  | noAddress (found : net.addresses f.host f.port = .ok []) : Fails f net 0 (.noAddress f.host)
  | connect {addresses : List String} {last why : String}
    (found : net.addresses f.host f.port = .ok (addresses ++ [last]))
    (unreached : ∀ address ∈ addresses, ∃ why, net.connect address = .error why)
    (refused : net.connect last = .error why) : Fails f net 0 (.connect f.host why)
  | secure {why : String} (reached : f.Reaches net) (refused : net.secure f.host = .error why) :
    Fails f net 0 (.secure f.host why)
  | greet {why : String} (reached : f.Reaches net) (secured : net.secure f.host = .ok ())
    (refused : net.greet = .error why) : Fails f net 0 (.greet why)
  | target {k : Nat} {t : Target} {e : FetchError} (greets : f.Greets net)
    (next : f.targets[k]? = some t) (refused : f.Refuses net k t e) : Fails f net k e
  | conversation {why : String} (greets : f.Greets net) (ended : net.ending = .failed why) :
    Fails f net f.targets.length (.conversation why)
  | brokenOff {why : String} (greets : f.Greets net) (ended : net.ending = .brokenOff why) :
    Fails f net f.targets.length (.brokenOff why)
  | shutdown {why : String} (greets : f.Greets net) (ended : net.ending = .done)
    (closed : net.closing = .failed why) : Fails f net f.targets.length (.shutdown why)

/-! ### Before and after the questions -/

theorem resolve_cases (f : Fetch) (net : Network) :
    (∃ e, f.resolve net = .error e ∧ e.stage = .resolving ∧ f.Fails net 0 e) ∨
    ∃ addresses, f.resolve net = .ok addresses ∧ net.addresses f.host f.port = .ok addresses ∧
      addresses ≠ [] := by
  rw [resolve]
  rcases found : net.addresses f.host f.port with why | - | ⟨address, addresses⟩
  · exact .inl ⟨_, rfl, rfl, .resolve found⟩
  · exact .inl ⟨_, rfl, rfl, .noAddress found⟩
  · exact .inr ⟨_, rfl, rfl, List.cons_ne_nil _ _⟩

/-- One address that can be reached is enough. -/
theorem connect_eq_ok {addresses : List String} {address : String} (mem : address ∈ addresses)
    (reached : net.connect address = .ok ()) (why : String) :
    f.connect net why addresses = .ok () := by
  induction addresses generalizing why with
  | nil => cases mem
  | cons first rest ih =>
    rw [Fetch.connect]
    split
    · rfl
    · next unreached =>
      refine ih ?_ _
      rcases List.mem_cons.mp mem with rfl | later
      · rw [reached] at unreached
        cases unreached
      · exact later

/-- Where no address can be reached, the reason is that of the last one. -/
theorem connect_eq_error {addresses : List String} {last why : String}
    (unreached : ∀ address ∈ addresses, ∃ why, net.connect address = .error why)
    (refused : net.connect last = .error why) (before : String) :
    f.connect net before (addresses ++ [last]) = .error (.connect f.host why) := by
  induction addresses generalizing before with
  | nil =>
    rw [List.nil_append, Fetch.connect, refused]
    rfl
  | cons first rest ih =>
    obtain ⟨now, h⟩ := unreached first List.mem_cons_self
    rw [List.cons_append, Fetch.connect, h]
    exact ih (fun address mem => unreached address (List.mem_cons_of_mem first mem)) now

theorem connect_cases {addresses : List String} (why : String)
    (found : net.addresses f.host f.port = .ok addresses) (some : addresses ≠ []) :
    (∃ e, f.connect net why addresses = .error e ∧ e.stage = .connecting ∧ f.Fails net 0 e) ∨
    f.connect net why addresses = .ok () ∧ f.Reaches net := by
  by_cases reached : ∃ address ∈ addresses, net.connect address = .ok ()
  · obtain ⟨address, mem, reached⟩ := reached
    exact .inr ⟨connect_eq_ok mem reached why, addresses, found, address, mem, reached⟩
  · have unreached : ∀ address ∈ addresses, ∃ why, net.connect address = .error why := by
      intro address mem
      rcases refused : net.connect address with why | ⟨⟩
      · exact ⟨why, rfl⟩
      · exact absurd ⟨address, mem, refused⟩ reached
    obtain ⟨init, last, rfl⟩ := (List.eq_nil_or_concat addresses).resolve_left some
    rw [List.concat_eq_append] at *
    obtain ⟨reason, refused⟩ := unreached last (by simp)
    have before := fun address mem => unreached address (List.mem_append_left [last] mem)
    exact .inl ⟨_, connect_eq_error before refused why, rfl, .connect found before refused⟩

theorem greet_cases (reached : f.Reaches net) :
    (∃ e, f.greet net = .error e ∧ e.stage = .handshaking ∧ f.Fails net 0 e) ∨
    f.greet net = .ok () ∧ f.Greets net := by
  rw [greet]
  rcases secured : net.secure f.host with why | ⟨⟩
  · exact .inl ⟨_, rfl, rfl, .secure reached secured⟩
  · rcases greeted : net.greet with why | ⟨⟩
    · exact .inl ⟨_, rfl, rfl, .greet reached secured greeted⟩
    · exact .inr ⟨rfl, reached, secured, greeted⟩

theorem finish_cases (greets : f.Greets net) :
    (∃ e, finish net = .error e ∧ e.stage = .shuttingDown ∧ f.Fails net f.targets.length e) ∨
    finish net = .ok () ∧ Closes net := by
  rw [finish]
  rcases ended : net.ending with - | why | why
  · rcases closed : net.closing with - | - | why
    · exact .inr ⟨rfl, ended, .inl closed⟩
    · exact .inr ⟨rfl, ended, .inr closed⟩
    · exact .inl ⟨_, rfl, rfl, .shutdown greets ended closed⟩
  · exact .inl ⟨_, rfl, rfl, .conversation greets ended⟩
  · exact .inl ⟨_, rfl, rfl, .brokenOff greets ended⟩

/-! ### From stage to stage -/

/-- A part of a fetch has handed over the logs of the first of some targets, which are numbered from
`index` on. -/
structure HandsOver (f : Fetch) (net : Network) (ts : List Target) (index : Nat) (p p' : Progress)
    (logs : List Log) : Prop where
  notices : p'.notices = (logs.map .log).reverse ++ p.notices
  answered : ∀ i (h : i < logs.length), ∃ t, ts[i]? = some t ∧ f.Answers net (index + i) t logs[i]

theorem HandsOver.none {ts : List Target} {index : Nat} {p p' : Progress}
    (same : p'.notices = p.notices) : HandsOver f net ts index p p' [] where
  notices := same
  answered := fun _ h => absurd h (Nat.not_lt_zero _)

/-- A question is answered, and then others are put. -/
theorem HandsOver.cons {t : Target} {ts : List Target} {index : Nat} {p p' : Progress} {log : Log}
    {logs : List Log} (first : f.Answers net index t log)
    (h : HandsOver f net ts (index + 1) (p.give (.log log)) p' logs) :
    HandsOver f net (t :: ts) index p p' (log :: logs) where
  notices := by
    rw [h.notices]
    simp [Progress.give]
  answered := by
    rintro (- | i) hi
    · exact ⟨t, rfl, first⟩
    · obtain ⟨t', next, answers⟩ := h.answered i (Nat.lt_of_succ_lt_succ hi)
      refine ⟨t', next, ?_⟩
      rwa [Nat.add_right_comm] at answers

/-- The questions are answered in order, as far as the first that is not. -/
theorem exists_handsOver_converse (ts : List Target) (index : Nat) (p : Progress) :
    ∃ logs, HandsOver f net ts index p (f.converse net index ts p).2 logs ∧
      ((f.converse net index ts p).1 = .ok () ∧ logs.length = ts.length ∨
        ∃ e t, (f.converse net index ts p).1 = .error e ∧
          (f.converse net index ts p).2.stage = e.stage ∧ ts[logs.length]? = some t ∧
          f.Refuses net (index + logs.length) t e) := by
  induction ts generalizing index p with
  | nil => exact ⟨[], .none rfl, .inl ⟨rfl, rfl⟩⟩
  | cons t ts ih =>
    rw [converse]
    dsimp only
    rcases made : net.frame (.make f.host f.port t.path) with why | q
    · exact ⟨[], .none rfl, .inr ⟨_, t, rfl, rfl, rfl, .question made⟩⟩
    · dsimp only
      rcases sent : net.send index q with why | ⟨⟩
      · exact ⟨[], .none rfl, .inr ⟨_, t, rfl, rfl, rfl, .write made sent⟩⟩
      · dsimp only
        rcases received : net.receive index q with why | body
        · exact ⟨[], .none rfl, .inr ⟨_, t, rfl, rfl, rfl, .read made sent received⟩⟩
        · -- one log, and then those of the other targets
          dsimp only
          obtain ⟨logs, h, ended⟩ := ih (index + 1) (((p.enter (.writing index)).enter
            (.reading index)).give (.log (f.service.parse t.id (lossyText body))))
          refine ⟨_, .cons ⟨q, body, made, sent, received, rfl⟩ ⟨h.notices, h.answered⟩, ?_⟩
          rcases ended with ⟨ok, all⟩ | ⟨e, t', failed, stage, next, refused⟩
          · exact .inl ⟨ok, congrArg (· + 1) all⟩
          · refine .inr ⟨e, t', failed, stage, next, ?_⟩
            rwa [Nat.add_right_comm] at refused

/-- The stages come to their end, or to one of the failures. -/
theorem exists_handsOver_stages (f : Fetch) (net : Network) (p : Progress) :
    ∃ logs, HandsOver f net f.targets 0 p (f.stages net p).2 logs ∧
      ((f.stages net p).1 = .ok () ∧ logs.length = f.targets.length ∧ Closes net ∨
        ∃ e, (f.stages net p).1 = .error e ∧ (f.stages net p).2.stage = e.stage ∧
          f.Fails net logs.length e) := by
  rw [stages]
  dsimp only
  rcases f.resolve_cases net with ⟨e, failed, stage, fails⟩ | ⟨addresses, resolved, found, some⟩
  · rw [failed]
    exact ⟨[], .none rfl, .inr ⟨e, rfl, stage.symm, fails⟩⟩
  rw [resolved]
  dsimp only
  rcases connect_cases "no address tried" found some with
    ⟨e, failed, stage, fails⟩ | ⟨connected, reached⟩
  · rw [failed]
    exact ⟨[], .none rfl, .inr ⟨e, rfl, stage.symm, fails⟩⟩
  rw [connected]
  dsimp only
  rcases greet_cases reached with ⟨e, failed, stage, fails⟩ | ⟨greeted, greets⟩
  · rw [failed]
    exact ⟨[], .none rfl, .inr ⟨e, rfl, stage.symm, fails⟩⟩
  rw [greeted]
  dsimp only
  -- the questions are put, and then the conversation is ended
  obtain ⟨logs, h, ended⟩ := @exists_handsOver_converse f net f.targets 0
    (((p.enter .resolving).enter .connecting).enter .handshaking)
  refine ⟨logs, ?_⟩
  rcases spoken : f.converse net 0 f.targets
    (((p.enter .resolving).enter .connecting).enter .handshaking) with ⟨r, p'⟩
  rw [spoken] at h ended
  rcases ended with ⟨rfl, all⟩ | ⟨e, t, rfl, stage, next, refused⟩
  · refine ⟨⟨h.notices, h.answered⟩, ?_⟩
    rcases finish_cases greets with ⟨e, failed, stage, fails⟩ | ⟨finished, closes⟩
    · exact .inr ⟨e, failed, stage.symm, all ▸ fails⟩
    · exact .inl ⟨finished, all, closes⟩
  · rw [Nat.zero_add] at refused
    exact ⟨⟨h.notices, h.answered⟩, .inr ⟨e, rfl, stage, .target greets next refused⟩⟩

/-! ### The whole -/

/-- The failure that a fetch ends with, if it does. -/
def failureOf : Except FetchError Unit → List Notice
  | .ok () => []
  | .error e => [.failure e]

theorem logs_of_notices {r : Fetched} {logs : List Log} {result : Except FetchError Unit}
    (h : r.notices = logs.map .log ++ failureOf result) : r.logs = logs := by
  rw [Fetched.logs, h, List.filterMap_append, List.filterMap_map]
  rcases result with e | ⟨⟩
  · show List.filterMap some logs ++ [] = logs
    rw [List.filterMap_some, List.append_nil]
  · show List.filterMap some logs ++ [] = logs
    rw [List.filterMap_some, List.append_nil]

theorem run_of_nil (none : f.targets = []) : f.run net = ⟨.ok (), .closed, []⟩ := by
  rw [run, none]
  rfl

/-- A failure comes before a log has been handed over for every target, or at a bad end. -/
theorem Fails.not_complete {k : Nat} {e : FetchError} (h : f.Fails net k e)
    (some : f.targets ≠ []) : ¬(k = f.targets.length ∧ Closes net) := by
  rintro ⟨all, ended, closed⟩
  have early : 0 ≠ f.targets.length := fun zero => some (List.length_eq_zero_iff.mp zero.symm)
  cases h with
  | resolve | noAddress | connect | secure | greet => exact early all
  | target greets next refused =>
    obtain ⟨inside, -⟩ := List.getElem?_eq_some_iff.mp next
    exact absurd all inside.ne
  | conversation greets failed =>
    rw [failed] at ended
    cases ended
  | brokenOff greets failed =>
    rw [failed] at ended
    cases ended
  | shutdown greets ended failed =>
    rw [failed] at closed
    rcases closed with ⟨⟨⟩⟩ | ⟨⟨⟩⟩

/-- What becomes of a fetch of some targets. -/
structure Delivers (f : Fetch) (net : Network) (r : Fetched) : Prop where
  /-- The logs are the answers to the first questions, in order. -/
  answered : ∀ i (h : i < r.logs.length), ∃ t, f.targets[i]? = some t ∧ f.Answers net i t r.logs[i]
  /-- After the logs comes the failure if there is one, once, and nothing else. -/
  notices : r.notices = r.logs.map .log ++ failureOf r.result
  ok_iff : r.result = .ok () ↔ r.logs.length = f.targets.length ∧ Closes net
  closed : r.result = .ok () → r.stage = .closed
  /-- The failure is one of the stage that was entered last, and of the first target that has not
  been answered if it is one of asking or of reading. -/
  failed : ∀ e, r.result = .error e → r.stage = e.stage ∧ f.Fails net r.logs.length e

theorem delivers_run (some : f.targets ≠ []) : f.Delivers net (f.run net) := by
  obtain ⟨logs, ⟨notices, answered⟩, ended⟩ := f.exists_handsOver_stages net .start
  have nonempty : ¬f.targets.isEmpty = true := mt List.isEmpty_iff.mp some
  rw [run, if_neg nonempty]
  simp only [Nat.zero_add] at answered
  rcases stages : f.stages net .start with ⟨r, p⟩
  rw [stages] at notices ended
  dsimp only at notices
  rcases ended with ⟨rfl, all, closes⟩ | ⟨e, rfl, stage, fails⟩
  · have given : (⟨.ok (), .closed, p.notices.reverse⟩ : Fetched).notices =
        logs.map .log ++ failureOf (.ok ()) := by
      simp [notices, Progress.start, failureOf]
    have same := logs_of_notices given
    exact ⟨same ▸ answered, same ▸ given, iff_of_true rfl ⟨same ▸ all, closes⟩, fun _ => rfl,
      by rintro _ ⟨⟩⟩
  · have given : (⟨.error e, p.stage, (p.give (.failure e)).notices.reverse⟩ : Fetched).notices =
        logs.map .log ++ failureOf (.error e) := by
      simp [notices, Progress.start, Progress.give, failureOf]
    have same := logs_of_notices given
    refine ⟨same ▸ answered, same ▸ given, iff_of_false ?_ ?_, by rintro ⟨⟩, ?_⟩
    · rintro ⟨⟩
    · exact same ▸ fails.not_complete some
    · rintro _ ⟨⟩
      exact ⟨stage, same ▸ fails⟩

/-- A fetch of no targets does nothing, and any other one delivers a log for each of its first
targets, for all of them if it succeeds, and otherwise its failure after them. -/
theorem run_delivers (f : Fetch) (net : Network) :
    (f.targets = [] → f.run net = ⟨.ok (), .closed, []⟩) ∧
    (f.targets ≠ [] → f.Delivers net (f.run net)) :=
  ⟨run_of_nil, delivers_run⟩

-- the second answer breaks off: one log has been handed over, and then the failure
example :
    let targets := [1, 2].map fun month => Service.gempir.monthlyTarget "a" "b" ⟨2020, month⟩
    let net := { Network.serving fun _ => [] with
      receive := fun index _ => if index = 1 then .error "eof" else .ok [] }
    let r := (⟨.gempir, "logs", 443, targets⟩ : Fetch).run net
    r.result = .error (.read 1 "eof") ∧ r.stage = .reading 1 ∧
      r.logs.map Log.id = [⟨"a", .month ⟨2020, 1⟩, "b"⟩] ∧ r.failures = [.read 1 "eof"] := by
  decide +kernel

end Scrollback.Fetch
