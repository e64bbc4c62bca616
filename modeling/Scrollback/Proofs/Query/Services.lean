/-
Queries of several services that share a store.  Where a service answers all its targets, a query is
answered from the logs that the store has under their identifiers, whichever service they came from,
and from the service's own logs for the others (`Surroundings.answers_after_turns`).  So a query may
hear what another service said (`answers_heard_elsewhere`).
-/
import Scrollback.Proofs.Query.Turns
import Scrollback.Proofs.Store.Persistent

namespace Scrollback

namespace Surroundings

variable {w : Surroundings} {q : Query} {shelf shelf' : Shelf} {service : Service}
  {targets : List Target}

/-! ### What is supplied -/

/-- The supplies depend on what is looked up, and on nothing else of the shelf. -/
theorem Supplies.of_lookup {r : Except String (List Log)} (h : w.Supplies service targets shelf r)
    (same : w.lookup targets shelf' = w.lookup targets shelf) :
    w.Supplies service targets shelf' r := by
  cases h with
  | stored all =>
    rw [← same] at all ⊢
    exact .stored all
  | unserved some nowhere =>
    rw [← same] at some
    exact .unserved some nowhere
  | undelivered served failed early =>
    rw [← same] at failed early
    exact .undelivered served failed early
  | delivered some served all =>
    rw [← same] at some all ⊢
    exact .delivered some served all

/-- A service that answers supplies its own logs of the targets that are missing. -/
theorem supplies_of_serves {e : Endpoint} {body : Target → List UInt8}
    (served : w.endpoint? service = some e) (h : w.network.Serves e body targets)
    (sub : (w.lookup targets shelf).missing.Sublist targets) :
    w.Supplies service targets shelf (.ok ((w.lookup targets shelf).stored ++
      (w.lookup targets shelf).missing.map (service.served body))) := by
  have logs : (w.fetch service e (w.lookup targets shelf).missing).logs =
      (w.lookup targets shelf).missing.map (service.served body) :=
    (h.mono fun _ ht => sub.subset ht).logs_run service
  by_cases none : (w.lookup targets shelf).missing = []
  · rw [none, List.map_nil, List.append_nil]
    exact .stored none
  · rw [← logs]
    refine .delivered none served ?_
    rw [logs, List.length_map]

/-- A query is answered alike with either shelf. -/
structure Alike (w : Surroundings) (q : Query) (shelf shelf' : Shelf) : Prop where
  count : (w.count q shelf).answers = (w.count q shelf').answers
  find : (w.find q shelf).answers = (w.find q shelf').answers
  pastes : (w.find q shelf).pastes = (w.find q shelf').pastes

theorem alike_of_lookup (same : w.lookup q.wanted shelf' = w.lookup q.wanted shelf) :
    w.Alike q shelf shelf' := by
  rcases Nat.lt_or_ge Query.maxTargets q.targetCount with many | few
  · obtain ⟨reason, refused⟩ := Query.exists_targets_of_lt many
    constructor
    · rw [Surroundings.count, Surroundings.count, refused]
    · rw [Surroundings.find, Surroundings.find, refused]
    · rw [Surroundings.find, Surroundings.find, refused]
  · obtain ⟨r, supplied⟩ := w.exists_supplies q.service q.wanted shelf
    have supplied' := supplied.of_lookup same
    obtain ⟨answers, pastes⟩ := supplied.find_eq few
    obtain ⟨answers', pastes'⟩ := supplied'.find_eq few
    exact ⟨(supplied.count_eq few).1.trans (supplied'.count_eq few).1.symm,
      answers.trans answers'.symm, pastes.trans pastes'.symm⟩

/-! ### After other queries -/

/-- Any queries have been put, of whatever services, to a store that was empty before.  From the
store a query takes just logs of settled targets of its own, under identifiers that have been asked
for before.  If there are none it is answered alike without those queries, whatever its service
does.  If its service answers all its targets it is answered from the logs that are taken and from
the service's own logs of the others; with the empty store, from the service's own logs alone. -/
theorem answers_after_turns (turns : List Turn) (dir : String) (capacity : Nat)
    (mode : Option Mode) (d : Disk) (w : Surroundings) (q : Query) :
    let empty : Shelf := ⟨some (.bare dir capacity mode), d⟩
    let shelf := Turn.leavesAll turns empty
    Lookup.Takes (Turn.askedIn turns) w.now q.wanted (w.lookup q.wanted shelf) ∧
    ((∀ t ∈ q.wanted, t.id.settled w.now = true → t.id ∉ Turn.askedIn turns) →
      w.Alike q shelf empty) ∧
    ∀ (e : Endpoint) (body : Target → List UInt8), q.targetCount ≤ Query.maxTargets →
      w.endpoint? q.service = some e → w.network.Serves e body q.wanted →
      w.AnswersOnce q shelf (.ok ((w.lookup q.wanted shelf).stored ++
        (w.lookup q.wanted shelf).missing.map (q.service.served body))) ∧
      w.AnswersOnce q empty (.ok (q.wanted.map (q.service.served body))) := by
  intro empty shelf
  have bare : ∀ known : Set LogId, empty.Only known := by
    rintro known _ ⟨⟩
    exact .bare known dir capacity mode
  have only : shelf.Only (Turn.askedIn turns) :=
    Turn.only_leavesAll (bare _) fun t ht id hid => ⟨t, ht, hid⟩
  have takes := (w.takes_lookup only q.wanted).1
  have nothing : w.lookup q.wanted empty = ⟨[], q.wanted⟩ :=
    (w.takes_lookup (bare ∅) q.wanted).1.eq_of_unknown fun _ _ _ => Set.notMem_empty _
  -- with what is taken known, the supplies are, and with them the answers
  refine ⟨takes, fun unknown => alike_of_lookup ?_, fun e body few served serves => ⟨?_, ?_⟩⟩
  · rw [nothing, takes.eq_of_unknown unknown]
  · exact (supplies_of_serves served serves takes.missing).answersOnce few
  · have all : (w.lookup q.wanted empty).missing.Sublist q.wanted := by
      rw [nothing]
    have supplied := supplies_of_serves served serves all
    rw [nothing] at supplied
    exact supplied.answersOnce few

end Surroundings

/-! ### Heard elsewhere -/

/-- Every question is answered by one page. -/
def onePage (page : String) : Surroundings where
  endpoint? _ := some ⟨"logs", 443⟩
  network := .serving fun _ => utf8 page
  now := ⟨1577836801, 0⟩
  paste _ := .error (.rejected "full")

/-- How often a letter occurs in what was said in a channel on one day. -/
def dayQuery (s : Service) : Query where
  matcher := .ofText "c" false
  channels := ["a"]
  users := .everyone
  period := .day ⟨1970, 1, 2⟩
  service := s

/-- What is said there, as one service has it. -/
def dayPage : String := "[1970-01-02 00:00:01] #a b: c"

/-- The log of it. -/
def dayLog : Log :=
  Service.gempir.parse ⟨"a", .day ⟨1970, 1, 2⟩, ""⟩ dayPage

theorem targetCount_dayQuery_le (s : Service) : (dayQuery s).targetCount ≤ Query.maxTargets := by
  cases s <;> decide

theorem wanted_dayQuery (s : Service) :
    (dayQuery s).wanted = [s.dailyTarget "a" ⟨1970, 1, 2⟩] := by
  cases s <;> cbv

theorem serves_onePage (page : String) (s : Service) :
    (onePage page).network.Serves ⟨"logs", 443⟩ (fun _ => utf8 page) (dayQuery s).wanted where
  reached := ⟨["logs"], rfl, "logs", List.mem_singleton_self _, rfl⟩
  greeted := ⟨rfl, rfl⟩
  answers := by
    intro t ht
    rw [wanted_dayQuery, List.mem_singleton] at ht
    subst ht
    have made : ∃ q, (Question.make "logs" 443
        (s.dailyTarget "a" ⟨1970, 1, 2⟩).path).framed = .ok q := by
      refine ⟨.make "logs" 443 (s.dailyTarget "a" ⟨1970, 1, 2⟩).path, ?_⟩
      cases s <;> decide +kernel
    obtain ⟨q, made⟩ := made
    exact ⟨q, made, fun _ => ⟨rfl, rfl⟩⟩

/-- An empty store in an empty directory. -/
def logsShelf : Shelf := ⟨some (.bare "logs" 1 none), ⟨[(["logs"], .directory)]⟩⟩

theorem valid_dayLog : dayLog.valid = true := by
  decide

theorem keepable_dayLog : dayLog.Keepable where
  obtained := .parsed ..
  times := by decide
  writable := fun valid =>
    (Log.Obtained.parsed .. : dayLog.Obtained).exists_encode .native valid (by cbv)

/-- The log can be written to its file. -/
theorem exists_insert_dayLog :
    ∃ s d, (Store.bare "logs" 1 none).insert logsShelf.disk dayLog = (.ok dayLog, s, d) := by
  obtain ⟨out, -, written, -⟩ := keepable_dayLog.exists_written valid_dayLog
  have path : Store.filePath "logs" dayLog.id = "logs/a_86400000_172800000.bin" := by
    decide +kernel
  have names : Path.components "logs/a_86400000_172800000.bin" =
    ["logs", "a_86400000_172800000.bin"] := by decide +kernel
  have made : logsShelf.disk.makeDirectories
      ((Path.parent? (Store.filePath "logs" dayLog.id)).getD "") = (.ok (), logsShelf.disk) := by
    rw [path, show (Path.parent? "logs/a_86400000_172800000.bin").getD "" = "logs" by
      decide]
    exact Store.makeDirectories_logs (by rw [Store.components_logs]; rfl)
  have reaches : logsShelf.disk.Reaches (Store.filePath "logs" dayLog.id) := by
    rw [Disk.reaches_iff, path, names]
    exact ⟨by decide, by decide, by decide, rfl⟩
  have free : logsShelf.disk.node? (Path.components (Store.filePath "logs" dayLog.id)) ≠
      some .directory := by
    rw [path, names]
    rintro ⟨⟩
  obtain ⟨copy, d, inserted, -⟩ := @Store.insert_of_reaches "logs" (.bare "logs" 1 none)
    logsShelf.disk dayLog out rfl valid_dayLog written made reaches free
  exact ⟨_, d, inserted⟩

/-- The log is saved, so that it is in memory afterwards. -/
theorem exists_save_dayLog :
    ∃ s d, Surroundings.save logsShelf [dayLog] = ⟨some s, d⟩ ∧
      (s.get d dayLog.id).1 = some dayLog := by
  obtain ⟨s, d, inserted⟩ := exists_insert_dayLog
  have all : ((Store.bare "logs" 1 none).putAll logsShelf.disk [dayLog]).2.1 = s := by
    rw [Store.putAll_store, Store.insertAll, List.foldl_cons, List.foldl_nil, Store.insertNext,
      inserted]
  exact ⟨s, _, congrArg (fun s => (⟨some s, _⟩ : Shelf)) all, Store.get_of_insert inserted _⟩

/-- Where nothing is stored the target is missing, -/
theorem missing_dayQuery :
    ((onePage dayPage).lookup (dayQuery .gempir).wanted logsShelf).missing =
      (dayQuery .gempir).wanted := by
  cbv

/-- looking it up changes nothing, -/
theorem lookedUp_dayQuery :
    (onePage dayPage).lookedUp (dayQuery .gempir).wanted logsShelf = logsShelf := by
  rw [wanted_dayQuery]
  rfl

/-- and the service hands its log over. -/
theorem logs_dayQuery :
    ((onePage dayPage).fetch .gempir ⟨"logs", 443⟩ (dayQuery .gempir).wanted).logs = [dayLog] := by
  rw [Surroundings.fetch, (serves_onePage dayPage .gempir).logs_run, wanted_dayQuery]
  show [Service.gempir.parse _ (lossyText (utf8 dayPage))] = _
  rw [show lossyText (utf8 dayPage) = dayPage by cbv]
  rfl

theorem keeps_dayLog : (onePage dayPage).keeps logsShelf.store dayLog = true := by
  decide

/-- After one service has been asked, its log is in the store. -/
theorem leaves_dayQuery :
    Turn.leavesAll [⟨onePage dayPage, dayQuery .gempir, true⟩] logsShelf =
      Surroundings.save logsShelf [dayLog] := by
  have some : (dayQuery .gempir).wanted ≠ [] := by
    rw [wanted_dayQuery]
    rintro ⟨⟩
  show Turn.leaves ⟨onePage dayPage, dayQuery .gempir, true⟩ logsShelf = _
  rw [Turn.leaves_of_le (targetCount_dayQuery_le .gempir)]
  show (onePage dayPage).leaves .gempir (dayQuery .gempir).wanted logsShelf = _
  rw [Surroundings.leaves, missing_dayQuery, lookedUp_dayQuery,
    if_neg (mt List.isEmpty_iff.mp some)]
  show Surroundings.save logsShelf (List.filter _
    ((onePage dayPage).fetch .gempir ⟨"logs", 443⟩ (dayQuery .gempir).wanted).logs) = _
  rw [logs_dayQuery, List.filter_cons_of_pos keeps_dayLog, List.filter_nil]

/-- The other service answers, and has nothing; but it is not asked, as the store has a log. -/
theorem answers_heard_elsewhere :
    (onePage "").endpoint? .overrustle = some ⟨"logs", 443⟩ ∧
    (onePage "").network.Serves ⟨"logs", 443⟩ (fun _ => utf8 "") (dayQuery .overrustle).wanted ∧
    ((onePage "").count (dayQuery .overrustle)
      (Turn.leavesAll [⟨onePage dayPage, dayQuery .gempir, true⟩] logsShelf)).answers =
        [.count 1] ∧
    ((onePage "").count (dayQuery .overrustle) logsShelf).answers = [.count 0] := by
  refine ⟨rfl, serves_onePage "" .overrustle, ?_, by decide +kernel⟩
  obtain ⟨s, d, saved, held⟩ := exists_save_dayLog
  have taken : (onePage "").lookup (dayQuery .overrustle).wanted ⟨some s, d⟩ = ⟨[dayLog], []⟩ := by
    have settled : dayLog.id.settled (onePage "").now = true := by decide
    have same : (Service.overrustle.dailyTarget "a" ⟨1970, 1, 2⟩).id = dayLog.id := rfl
    have loaded := Store.load_of_get d held
    rw [wanted_dayQuery, Surroundings.lookup, Lookup.find, Lookup.within, same, if_pos settled]
    rcases answer : s.load d dayLog.id with ⟨r, s'⟩
    rw [answer] at loaded
    obtain rfl : r = .ok (some dayLog) := loaded
    rfl
  -- nothing is missing, so that the service is not asked
  have supplied : (onePage "").Supplies .overrustle (dayQuery .overrustle).wanted ⟨some s, d⟩
      (.ok ((onePage "").lookup (dayQuery .overrustle).wanted ⟨some s, d⟩).stored) :=
    .stored (congrArg Lookup.missing taken)
  rw [taken] at supplied
  have answered := supplied.answersOnce (targetCount_dayQuery_le .overrustle)
  rw [leaves_dayQuery, saved, answered.counted _ rfl]
  decide +kernel

end Scrollback
