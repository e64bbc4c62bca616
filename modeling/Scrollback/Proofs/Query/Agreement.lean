/-
Queries whose store agrees with their service.  What the store has comes first, and the rest as it
is fetched, so with another store the same logs come in another order (`Surroundings.exists_order`).
A count does not depend on the order, and so not on what was stored
(`Surroundings.count_eq_of_agrees`).  Lines that are found are sorted by time alone, so that those
of one time still stand in the order of their logs: two stores give the same lines, in the same
order but for lines of several logs at one time (`Surroundings.found_alike`), and there they do
differ (`Surroundings.found_otherwise`).
-/
import Scrollback.Proofs.Batch.Shared
import Scrollback.Proofs.Query.Order
import Scrollback.Proofs.Query.Reloaded
import Scrollback.Proofs.Query.Services

namespace Scrollback

variable {q : Query} {served : Target → Log} {now : Instant} {d : Disk} {s : Store}
  {targets : List Target} {log log' : Log} {id : LogId}

/-! ### Logs that say the same -/

namespace Query

theorem countPart_of_same (h : log.same log' = true) : q.countPart log = q.countPart log' := by
  obtain ⟨-, -, -, lines⟩ := Log.same_eq_true.mp h
  rw [countPart_eq, countPart_eq, lines]

theorem linePart_of_same (h : log.same log' = true) : q.linePart log = q.linePart log' := by
  obtain ⟨-, -, -, lines⟩ := Log.same_eq_true.mp h
  rw [linePart_eq, linePart_eq, lines]

variable {logs : List Log} {order : List Target}

/-- Logs add to a count what others add that say the same. -/
theorem map_countPart_of_same
    (h : List.Forall₂ (fun log t => log.same (served t) = true) logs order) :
    logs.map q.countPart = order.map fun t => q.countPart (served t) := by
  induction h with
  | nil => rfl
  | cons same _ ih => rw [List.map_cons, List.map_cons, ih, countPart_of_same same]

/-- The lines that are found in logs are those of others that say the same. -/
theorem linesIn_of_same
    (h : List.Forall₂ (fun log t => log.same (served t) = true) logs order) :
    q.linesIn logs = q.linesIn (order.map served) := by
  have parts : logs.flatMap q.linePart = (order.map served).flatMap q.linePart := by
    induction h with
    | nil => rfl
    | cons same _ ih =>
      rw [List.map_cons, List.flatMap_cons, List.flatMap_cons, ih, linePart_of_same same]
  rw [linesIn, linesIn, parts]

/-! ### Answers from what is served -/

/-- How often what is searched for occurs in what is served for all targets of a query. -/
def countServed (q : Query) (body : Target → List UInt8) : Nat :=
  total (q.wanted.map fun t =>
    total (((q.service.served body t).remarks.filter fun l => q.period.contains l.time).map
      fun l => q.matcher.count l.message))

/-- The lines that a query finds in what is served, in the order of their times; what is said at one
time stands target by target, in the same order of the targets at all times. -/
structure Arranged (q : Query) (served : Target → Log) (lines : List Line) : Prop where
  ordered : Line.Ordered lines
  perm : lines.Perm (q.wanted.flatMap fun t => q.linePart (served t))
  by_targets : ∃ order : List Target, order.Perm q.wanted ∧ ∀ time,
    Line.linesAt time lines = order.flatMap fun t => Line.linesAt time (q.linePart (served t))

theorem arranged_linesIn {order : List Target} (served : Target → Log)
    (perm : order.Perm q.wanted) : q.Arranged served (q.linesIn (order.map served)) where
  ordered := q.ordered_linesIn _
  perm := by
    refine (q.linesIn_perm _).trans ?_
    rw [List.flatMap_map]
    exact perm.flatMap_right _
  by_targets := by
    refine ⟨order, perm, fun time => ?_⟩
    rw [q.linesAt_linesIn, List.flatMap_map]

/-- What is said at one time for two targets is the same line over and over, if it is said for
both. -/
def Apart (q : Query) (served : Target → Log) : Prop :=
  ∀ t ∈ q.wanted, ∀ t' ∈ q.wanted, t = t' ∨ ∀ l ∈ q.linePart (served t),
    ∀ l' ∈ q.linePart (served t'), l.time = l'.time → l = l'

end Query

/-! ### Stores that agree -/

/-- What a lookup takes from a store says the same as what is served.  Every target is loaded when
its turn comes, since an earlier one may have driven it out of memory, and its file need not say
what the memory did. -/
def Lookup.Agrees (now : Instant) (d : Disk) (served : Target → Log) : Store → List Target → Prop
  | _, [] => True
  | s, t :: rest =>
    if t.id.settled now then
      (∀ log, (s.load d t.id).1 = .ok (some log) → log.same (served t) = true) ∧
        Agrees now d served (s.load d t.id).2.1 rest
    else Agrees now d served s rest

/-- The store, if there is one, agrees with what is served. -/
def Shelf.Agrees (shelf : Shelf) (now : Instant) (served : Target → Log) (targets : List Target) :
    Prop :=
  ∀ s, shelf.store = some s → Lookup.Agrees now shelf.disk served s targets

/-- Whatever copy there is of a log, in memory or in the file that is listed, says the same as some
log. -/
structure Store.Says (s : Store) (d : Disk) (id : LogId) (log : Log) : Prop where
  memory : ∀ copy, (id, copy) ∈ s.cache.entries → ∀ l, copy.memory = some l → l.same log = true
  file : ∀ path l, s.index.path? id = some path →
    (LogCopy.ofFile d id path).readFile d = .ok l → l.same log = true

namespace Store.Says

theorem of_load (h : s.Says d id log) {l : Log} (loaded : (s.load d id).1 = .ok (some l)) :
    l.same log = true := by
  rcases load_cases loaded with got | ⟨path, listed, read⟩
  · obtain ⟨copy, found, memory⟩ := Option.bind_eq_some_iff.mp got
    exact h.memory copy (Recency.mem_of_get found) l memory
  · exact h.file path l listed read

/-- Loading another log, or the same, changes nothing in what is said. -/
theorem load (h : s.Says d id log) (other : LogId) : (s.load d other).2.1.Says d id log where
  memory := by
    intro copy mem l memory
    rcases mem_load mem with old | ⟨path, back, listed, read, new⟩
    · exact h.memory copy old l memory
    · cases new
      cases memory
      exact h.file path l listed read
  file := by
    rw [index_load]
    exact h.file

end Store.Says

/-- A store agrees if none of its copies of settled targets says anything else. -/
theorem Lookup.agrees_of_says
    (h : ∀ t ∈ targets, t.id.settled now = true → s.Says d t.id (served t)) :
    Agrees now d served s targets := by
  induction targets generalizing s with
  | nil => trivial
  | cons t rest ih =>
    have later := fun u hu => h u (List.mem_cons_of_mem t hu)
    rw [Agrees]
    split
    · next settled =>
      refine ⟨fun log => (h t List.mem_cons_self settled).of_load, ih fun u hu settled' => ?_⟩
      exact (later u hu settled').load t.id
    · exact ih later

/-- A store that agrees agrees with what is served for the targets that come later. -/
theorem Lookup.Agrees.next {t : Target} {rest : List Target}
    (h : Agrees now d served s (t :: rest)) : Agrees now d served (Lookup.next now d t s) rest := by
  rw [Agrees] at h
  rw [Lookup.next]
  split at h
  · next settled =>
    rw [if_pos settled]
    exact h.2
  · next growing =>
    rw [if_neg growing]
    exact h

/-- The logs that are taken say the same as what is served for their targets, and with the targets
that are missing these are all targets, in another order. -/
theorem Lookup.exists_order (h : Agrees now d served s targets) :
    ∃ taken : List Target, (taken ++ (within now d s targets).1.missing).Perm targets ∧
      List.Forall₂ (fun log t => log.same (served t) = true) (within now d s targets).1.stored
        taken ∧
      (within now d s targets).1.missing.Sublist targets := by
  induction targets generalizing s with
  | nil => exact ⟨[], .nil, .nil, .slnil⟩
  | cons t rest ih =>
    obtain ⟨taken, perm, same, sub⟩ := ih h.next
    rcases wanted : wants now d (t, s) with - | -
    · -- taken from the store
      obtain ⟨settled, log, given⟩ := given_of_wants wanted
      rw [Agrees, if_pos settled] at h
      rw [within_of_given settled given]
      exact ⟨t :: taken, perm.cons t, .cons (h.1 log given) same, sub.cons t⟩
    · -- one more is missing, and it stands after the taken ones
      rw [within_of_wants wanted]
      exact ⟨taken, List.perm_middle.trans (perm.cons t), same, sub.cons_cons t⟩

/-! ### Two channels, one of them stored -/

/-- What is said in one of two channels in a certain second. -/
def channelPage (path : String) : String :=
  if path.startsWith "/channel/a/" then dayPage else "[1970-01-02 00:00:01] #z y: c"

/-- The bodies of the pages. -/
def channelBody (t : Target) : List UInt8 := utf8 (channelPage t.path)

/-- A service that has both channels. -/
def channelPages : Surroundings :=
  { onePage "" with network := .serving fun path => utf8 (channelPage path) }

/-- A query for both channels. -/
def channelQuery : Query := { dayQuery .gempir with channels := ["z", "a"] }

/-- The log of the second channel has been stored, and the files have been lost since. -/
def heldShelf : Shelf where
  store := some
    { dir := "logs"
      cache := ⟨1, [(dayLog.id, ⟨dayLog.id, "logs/a_86400000_172800000.bin", some dayLog, true⟩)]⟩
      index := ⟨[(dayLog.id, "logs/a_86400000_172800000.bin")]⟩
      mode := none }
  disk := ⟨[]⟩

theorem targetCount_channelQuery_le : channelQuery.targetCount ≤ Query.maxTargets := by
  decide

theorem wanted_channelQuery :
    channelQuery.wanted = [Service.gempir.dailyTarget "z" ⟨1970, 1, 2⟩,
      Service.gempir.dailyTarget "a" ⟨1970, 1, 2⟩] := by
  cbv

theorem serves_channelPages :
    channelPages.network.Serves ⟨"logs", 443⟩ channelBody channelQuery.wanted where
  reached := ⟨["logs"], rfl, "logs", List.mem_singleton_self _, rfl⟩
  greeted := ⟨rfl, rfl⟩
  answers := by
    intro t ht
    have made : ∀ t ∈ channelQuery.wanted, (Question.make "logs" 443 t.path).framed =
        .ok (.make "logs" 443 t.path) := by
      decide +kernel
    exact ⟨_, made t ht, fun _ => ⟨rfl, rfl⟩⟩

/-- What is stored is what is served. -/
theorem served_channelBody :
    Service.gempir.served channelBody (Service.gempir.dailyTarget "a" ⟨1970, 1, 2⟩) = dayLog := by
  have page : lossyText (channelBody (Service.gempir.dailyTarget "a" ⟨1970, 1, 2⟩)) = dayPage := by
    cbv
  rw [Service.served, page]
  rfl

theorem agrees_logsShelf : logsShelf.Agrees channelPages.now
    (Service.gempir.served channelBody) channelQuery.wanted := by
  rintro _ ⟨⟩
  apply Lookup.agrees_of_says
  intro t ht _
  constructor
  · rintro _ ⟨⟩
  · rintro _ _ ⟨⟩

theorem agrees_heldShelf :
    heldShelf.Agrees channelPages.now (Service.gempir.served channelBody) channelQuery.wanted := by
  rintro _ ⟨⟩
  apply Lookup.agrees_of_says
  intro t ht _
  rw [wanted_channelQuery] at ht
  constructor
  · -- only the second target is in memory, and it says what is served
    intro copy mem l memory
    obtain ⟨same, rfl⟩ := Prod.mk.inj (List.mem_singleton.mp mem)
    obtain rfl : dayLog = l := Option.some.inj memory
    rcases List.mem_cons.mp ht with rfl | ht
    · exact absurd same (by decide)
    · obtain rfl := List.mem_singleton.mp ht
      rw [served_channelBody, Log.same_self]
  · -- there is no file that could be read
    intro path l _ read
    obtain ⟨bytes, found, -⟩ := LogCopy.readFile_eq_ok.mp read
    exact absurd (Disk.find_eq_ok.mp found).2 (Disk.node?_nil_ne_file _ bytes)

namespace Surroundings

variable {w : Surroundings} {e : Endpoint} {body : Target → List UInt8} {shelf shelf' : Shelf}

/-- A service that answers and a store that agrees with it supply what is served for all targets, in
some order of these. -/
theorem exists_order {service : Service} (configured : w.endpoint? service = some e)
    (serves : w.network.Serves e body targets)
    (agrees : shelf.Agrees w.now (service.served body) targets) :
    ∃ (order : List Target) (logs : List Log), order.Perm targets ∧
      w.Supplies service targets shelf (.ok logs) ∧
      List.Forall₂ (fun log t => log.same (service.served body t) = true) logs order := by
  obtain ⟨taken, perm, same, sub⟩ : ∃ taken : List Target,
      (taken ++ (w.lookup targets shelf).missing).Perm targets ∧
      List.Forall₂ (fun log t => log.same (service.served body t) = true)
        (w.lookup targets shelf).stored taken ∧
      (w.lookup targets shelf).missing.Sublist targets := by
    rcases shelf with ⟨- | s, d⟩
    · -- without a store all are missing
      exact ⟨[], .refl _, .nil, .refl _⟩
    · exact Lookup.exists_order (agrees s rfl)
  have fetched : List.Forall₂ (fun log t => log.same (service.served body t) = true)
      ((w.lookup targets shelf).missing.map (service.served body))
      (w.lookup targets shelf).missing := by
    rw [List.forall₂_map_left_iff, List.forall₂_same]
    exact fun t _ => Log.same_self _
  exact ⟨_, _, perm, supplies_of_serves configured serves sub, List.rel_append same fetched⟩

/-! ### Counting -/

/-- A count does not depend on the store.  Where a service answers for all targets of a query, and a
store has only logs that say the same, the answer is how often what is searched for occurs in what
is served, whichever targets are stored, cannot be read or are missing. -/
theorem count_eq_of_agrees (few : q.targetCount ≤ Query.maxTargets)
    (configured : w.endpoint? q.service = some e) (serves : w.network.Serves e body q.wanted)
    (agrees : shelf.Agrees w.now (q.service.served body) q.wanted)
    (fits : q.countServed body ≤ wordMax) :
    (w.count q shelf).answers = [.count (q.countServed body)] := by
  obtain ⟨order, logs, perm, supplied, same⟩ := exists_order configured serves agrees
  have sum : total (logs.map q.countPart) = q.countServed body := by
    rw [Query.map_countPart_of_same same, Batch.Shared.total_perm (perm.map _), Query.countServed]
    simp only [Query.countPart_eq]
  -- the sum is one of words, and fits
  rw [(supplied.answersOnce few).counted logs rfl, Query.countIn, sum,
    Nat.mod_eq_of_lt (Nat.lt_succ_of_le fits)]

/-- Each of the two channels has the word once. -/
theorem count_eq_heldShelf :
    (channelPages.count channelQuery heldShelf).answers = [.count 2] := by
  have two : channelQuery.countServed channelBody = 2 := by decide +kernel
  have counted := count_eq_of_agrees targetCount_channelQuery_le rfl serves_channelPages
    agrees_heldShelf (by rw [two]; decide)
  rwa [two] at counted

/-! ### Finding -/

/-- A query finds some lines: it is answered that there are none, or they are pasted, and it is
answered where, or why they could not be. -/
structure Finds (w : Surroundings) (q : Query) (shelf : Shelf) (lines : List Line) : Prop where
  nothing : lines = [] → (w.find q shelf).answers = [.noMatch] ∧ (w.find q shelf).pastes = []
  something : lines ≠ [] → (w.find q shelf).pastes = [transcript lines] ∧
    (w.find q shelf).answers = [match w.paste (transcript lines) with
      | .ok location => .found location
      | .error e => .failed e.message]

theorem Supplies.finds {logs : List Log} (h : w.Supplies q.service q.wanted shelf (.ok logs))
    (few : q.targetCount ≤ Query.maxTargets) : w.Finds q shelf (q.linesIn logs) := by
  have once := h.answersOnce few
  constructor
  · exact once.unmatched logs rfl
  · intro some
    rcases pasted : w.paste (transcript (q.linesIn logs)) with cause | location
    · obtain ⟨answers, pastes⟩ := once.unpasted logs cause rfl some pasted
      exact ⟨pastes, answers⟩
    · obtain ⟨answers, pastes⟩ := once.found logs location rfl some pasted
      exact ⟨pastes, answers⟩

/-- What is found depends on the store only in the order of the logs. -/
theorem exists_finds (few : q.targetCount ≤ Query.maxTargets)
    (configured : w.endpoint? q.service = some e) (serves : w.network.Serves e body q.wanted)
    (agrees : shelf.Agrees w.now (q.service.served body) q.wanted) :
    ∃ order : List Target, order.Perm q.wanted ∧
      w.Finds q shelf (q.linesIn (order.map (q.service.served body))) := by
  obtain ⟨order, logs, perm, supplied, same⟩ := exists_order configured serves agrees
  refine ⟨order, perm, ?_⟩
  rw [← Query.linesIn_of_same same]
  exact supplied.finds few

/-- With two stores that agree with a service that answers, a query finds the same lines, none with
both or the same ones with both, and pastes them in the order of their times.  What is said at one
time stands target by target, and the two transcripts may have the targets in another order; they
are the same where no line of one target shares its time with another line of another. -/
theorem found_alike (few : q.targetCount ≤ Query.maxTargets)
    (configured : w.endpoint? q.service = some e) (serves : w.network.Serves e body q.wanted)
    (agrees : shelf.Agrees w.now (q.service.served body) q.wanted)
    (agrees' : shelf'.Agrees w.now (q.service.served body) q.wanted) :
    ∃ lines lines', w.Finds q shelf lines ∧ w.Finds q shelf' lines' ∧
      q.Arranged (q.service.served body) lines ∧ q.Arranged (q.service.served body) lines' ∧
      (lines = [] ↔ lines' = []) ∧
      (q.Apart (q.service.served body) → transcript lines = transcript lines') := by
  obtain ⟨order, perm, finds⟩ := exists_finds few configured serves agrees
  obtain ⟨order', perm', finds'⟩ := exists_finds few configured serves agrees'
  have arranged := Query.arranged_linesIn (q.service.served body) perm
  have arranged' := Query.arranged_linesIn (q.service.served body) perm'
  refine ⟨_, _, finds, finds', arranged, arranged', ?_, fun apart => ?_⟩
  · have same := (arranged.perm.trans arranged'.perm.symm).length_eq
    rw [← List.length_eq_zero_iff, ← List.length_eq_zero_iff, same]
  · congr 1
    apply Query.linesIn_eq_of_perm ((perm.trans perm'.symm).map _)
    intro log hlog log' hlog'
    obtain ⟨t, ht, rfl⟩ := List.mem_map.mp hlog
    obtain ⟨t', ht', rfl⟩ := List.mem_map.mp hlog'
    rcases apart t (perm.mem_iff.mp ht) t' (perm.mem_iff.mp ht') with rfl | apart
    · exact .inl rfl
    · exact .inr apart

/-- Both transcripts have the same lines. -/
theorem found_alike_channelQuery :
    ∃ lines lines', channelPages.Finds channelQuery logsShelf lines ∧
      channelPages.Finds channelQuery heldShelf lines' ∧ lines.Perm lines' := by
  obtain ⟨lines, lines', finds, finds', arranged, arranged', -⟩ :=
    found_alike targetCount_channelQuery_le rfl serves_channelPages agrees_logsShelf
      agrees_heldShelf
  exact ⟨lines, lines', finds, finds', arranged.perm.trans arranged'.perm.symm⟩

/-- The matching lines of logs, if they are in order as they stand, are found as they stand. -/
theorem finds_of_ordered {logs : List Log} {lines : List Line}
    (few : q.targetCount ≤ Query.maxTargets)
    (supplied : w.Supplies q.service q.wanted shelf (.ok logs))
    (stand : logs.flatMap q.linePart = lines) (ordered : Line.Ordered lines) :
    w.Finds q shelf lines := by
  have sorted : q.linesIn logs = lines := by
    rw [Query.linesIn, stand]
    exact List.mergeSort_of_pairwise (ordered.imp decide_eq_true)
  rw [← sorted]
  exact supplied.finds few

/-- With an empty store the channels come in the order of the query, but one that is stored comes
first: what is said in the same second is pasted the other way round. -/
theorem found_otherwise :
    channelQuery.targetCount ≤ Query.maxTargets ∧
    channelPages.endpoint? channelQuery.service = some ⟨"logs", 443⟩ ∧
    channelPages.network.Serves ⟨"logs", 443⟩ channelBody channelQuery.wanted ∧
    logsShelf.Agrees channelPages.now (channelQuery.service.served channelBody)
      channelQuery.wanted ∧
    heldShelf.Agrees channelPages.now (channelQuery.service.served channelBody)
      channelQuery.wanted ∧
    (channelPages.find channelQuery logsShelf).pastes =
      ["1970-01-02 00:00:01 y: c\n1970-01-02 00:00:01 b: c\n"] ∧
    (channelPages.find channelQuery heldShelf).pastes =
      ["1970-01-02 00:00:01 b: c\n1970-01-02 00:00:01 y: c\n"] := by
  have few := targetCount_channelQuery_le
  have none : channelPages.lookup channelQuery.wanted logsShelf = ⟨[], channelQuery.wanted⟩ := by
    rw [wanted_channelQuery]
    rfl
  have one : channelPages.lookup channelQuery.wanted heldShelf =
      ⟨[dayLog], [Service.gempir.dailyTarget "z" ⟨1970, 1, 2⟩]⟩ := by
    rw [wanted_channelQuery]
    rfl
  have fetched := @supplies_of_serves channelPages logsShelf channelQuery.service
    channelQuery.wanted ⟨"logs", 443⟩ channelBody rfl serves_channelPages (by rw [none])
  have mixed := @supplies_of_serves channelPages heldShelf channelQuery.service
    channelQuery.wanted ⟨"logs", 443⟩ channelBody rfl serves_channelPages
    (by rw [one, wanted_channelQuery]; exact .cons_cons _ (.cons _ .slnil))
  rw [none] at fetched
  rw [one] at mixed
  -- both lines are said in one second, so that sorting leaves them as they come
  have first : channelPages.Finds channelQuery logsShelf
      [.make ⟨86401, 0⟩ "y" "c", .make ⟨86401, 0⟩ "b" "c"] :=
    finds_of_ordered few fetched (by decide +kernel) (by unfold Line.Ordered; decide)
  have second : channelPages.Finds channelQuery heldShelf
      [.make ⟨86401, 0⟩ "b" "c", .make ⟨86401, 0⟩ "y" "c"] :=
    finds_of_ordered few mixed (by decide +kernel) (by unfold Line.Ordered; decide)
  refine ⟨few, rfl, serves_channelPages, agrees_logsShelf, agrees_heldShelf, ?_, ?_⟩
  · rw [(first.something (by simp)).1]
    decide
  · rw [(second.something (by simp)).1]
    decide

end Surroundings

end Scrollback
