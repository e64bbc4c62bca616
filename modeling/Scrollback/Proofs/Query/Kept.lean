/-
What a query keeps, and what it asks for again.  Only settled targets are looked up in the store;
those that the store does not give are fetched, with those that are not settled.  Of the logs that
are handed over the valid and settled ones are kept, also if the fetch fails later
(`Turn.keepsSettled`).  So where nothing is lost on the way, a query that is put again fetches only
what was not valid the first time, or was not settled then (`Turn.fetches_again`).
-/
import Scrollback.Proofs.Query.Services

namespace Scrollback

variable {now : Instant} {d : Disk} {s : Store} {id : LogId} {log : Log}

/-! ### What a store gives -/

namespace Store

/-- The store after some logs have been loaded. -/
def loads (s : Store) (d : Disk) (ids : List LogId) : Store :=
  ids.foldl (fun s id => (s.load d id).2.1) s

/-- A store gives a log, whatever is loaded before it. -/
def Gives (s : Store) (d : Disk) (id : LogId) : Prop :=
  ∀ ids, (s.loads d ids).lacks d id = false

@[simp] theorem loads_nil (s : Store) (d : Disk) : s.loads d [] = s := rfl

@[simp] theorem loads_cons (s : Store) (d : Disk) (id : LogId) (ids : List LogId) :
    s.loads d (id :: ids) = (s.load d id).2.1.loads d ids := rfl

/-- A log whose file can be read is given. -/
theorem gives_of_readFile {path : String} (listed : s.index.path? id = some path)
    (read : (LogCopy.ofFile d id path).readFile d = .ok log) : s.Gives d id := by
  intro ids
  induction ids generalizing s with
  | nil =>
    rcases got : (s.get d id).1 with - | resident
    · have loaded : (s.load d id).1 = .ok (some log) := by
        rw [load_of_absent d got listed, read]
        rfl
      exact lacks_of_load loaded
    · exact lacks_of_load (load_of_get d got)
  | cons other ids ih =>
    refine ih ?_
    rw [index_load]
    exact listed

/-- A store in which no call of the disk has failed gives all logs that it holds. -/
theorem Sound.gives {dir : String} {m : Holdings} (h : Sound dir m s d) (held : m id = some log) :
    s.Gives d id := by
  obtain ⟨bytes, back, found, read, same⟩ := h.files.stored held
  have listed : s.index.path? id = some (filePath dir id) := by
    rw [h.listed.path_eq, held]
    rfl
  exact gives_of_readFile listed
    (LogCopy.readFile_eq_ok.mpr ⟨bytes, found, read, same.id.trans (h.files.id_eq held)⟩)

/-! ### What has been put -/

/-- What is listed stays listed when a log is put, -/
theorem listed_insert (listed : (s.index.path? id).isSome = true) (d : Disk) (log : Log) :
    ((s.insert d log).2.1.index.path? id).isSome = true := by
  rcases s.insert_cases d log with ⟨e, d', failed⟩ | ⟨copy, d', -, -, -, done⟩
  · rw [failed]
    exact listed
  · rw [done]
    rcases eq_or_ne id log.id with rfl | other
    · rw [StoreIndex.path?_insert_self]
      rfl
    · rw [StoreIndex.path?_insert_of_ne _ _ other]
      exact listed

/-- and when several are. -/
theorem listed_insertAll (listed : (s.index.path? id).isSome = true) (d : Disk) (logs : List Log)
    (n : Nat) : ((logs.foldl insertNext (n, s, d)).2.1.index.path? id).isSome = true :=
  insertAll_keeps (P := fun s _ => (s.index.path? id).isSome = true)
    (fun _ d log _ listed => listed_insert listed d log) listed n

theorem count_insertAll_le (s : Store) (d : Disk) (logs : List Log) (n : Nat) :
    (logs.foldl insertNext (n, s, d)).1 ≤ n + logs.length := by
  induction logs generalizing n s d with
  | nil => exact Nat.le_refl _
  | cons log logs ih =>
    rw [List.foldl_cons, insertNext, List.length_cons]
    rcases s.insert_cases d log with ⟨e, d', failed⟩ | ⟨copy, d', -, -, -, done⟩
    · rw [failed]
      exact (ih s d' n).trans (by omega)
    · rw [done]
      exact (ih _ d' (n + 1)).trans (by omega)

/-- If as many logs have been put as there are, every one of them is listed. -/
theorem listed_of_count {logs : List Log} {n : Nat}
    (all : (logs.foldl insertNext (n, s, d)).1 = n + logs.length) (mem : log ∈ logs) :
    ((logs.foldl insertNext (n, s, d)).2.1.index.path? log.id).isSome = true := by
  induction logs generalizing n s d with
  | nil => cases mem
  | cons first logs ih =>
    rw [List.foldl_cons, insertNext, List.length_cons] at all
    rw [List.foldl_cons, insertNext]
    rcases s.insert_cases d first with ⟨e, d', failed⟩ | ⟨copy, d', -, -, -, done⟩
    · -- the others cannot make up for one that has failed
      rw [failed] at all
      have := count_insertAll_le s d' logs n
      dsimp only at all
      omega
    · rw [done] at all ⊢
      rcases List.mem_cons.mp mem with rfl | mem
      · refine listed_insertAll ?_ d' logs (n + 1)
        rw [StoreIndex.path?_insert_self]
        rfl
      · exact ih (by rw [Nat.add_right_comm]; exact all) mem

end Store

/-! ### Looking up -/

namespace Lookup

variable {t : Target} {rest targets : List Target}

/-- The targets, each with the store that it meets when its turn comes. -/
def visits (now : Instant) (d : Disk) : Store → List Target → List (Target × Store)
  | _, [] => []
  | s, t :: rest => (t, s) :: visits now d (next now d t s) rest

/-- The settled ones among some targets. -/
def settledIds (now : Instant) (targets : List Target) : List LogId :=
  (targets.filter fun t => t.id.settled now).map Target.id

/-- Nothing but settled targets is loaded. -/
theorem loads_settledIds (now : Instant) (d : Disk) (s : Store) (t : Target)
    (rest : List Target) : s.loads d (settledIds now (t :: rest)) =
      (next now d t s).loads d (settledIds now rest) := by
  rw [settledIds, next, List.filter_cons]
  split
  · rfl
  · rfl

theorem map_fst_visits (now : Instant) (d : Disk) (s : Store) (targets : List Target) :
    (visits now d s targets).map Prod.fst = targets := by
  induction targets generalizing s with
  | nil => rfl
  | cons t rest ih => rw [visits, List.map_cons, ih]

/-- The store that a target meets has been there from the beginning, and logs have been loaded. -/
theorem exists_loads_of_mem_visits {v : Target × Store} (h : v ∈ visits now d s targets) :
    ∃ ids, v.2 = s.loads d ids := by
  induction targets generalizing s with
  | nil => cases h
  | cons t rest ih =>
    rcases List.mem_cons.mp h with rfl | h
    · exact ⟨[], rfl⟩
    · obtain ⟨ids, met⟩ := ih h
      rw [next] at met
      split at met
      · exact ⟨t.id :: ids, met⟩
      · exact ⟨ids, met⟩

/-- A target whose log the store gives is not fetched, unless it is not settled. -/
theorem wants_of_gives {v : Target × Store} (h : v ∈ visits now d s targets)
    (settled : v.1.id.settled now = true) (gives : s.Gives d v.1.id) : wants now d v = false := by
  obtain ⟨ids, met⟩ := exists_loads_of_mem_visits h
  rw [wants, settled, met, gives ids]
  rfl

/-- The logs that are taken are those that the store has loaded for the targets that need not be
fetched; the others are missing, in their order; and nothing but settled targets has been loaded. -/
theorem within_visits (now : Instant) (d : Disk) (s : Store) (targets : List Target) :
    List.Forall₂ (fun log v => (v.2.load d v.1.id).1 = .ok (some log))
      (within now d s targets).1.stored
      ((visits now d s targets).filter fun v => !wants now d v) ∧
    (within now d s targets).1.missing =
      ((visits now d s targets).filter (wants now d)).map Prod.fst ∧
    (within now d s targets).2.1 = s.loads d (settledIds now targets) := by
  induction targets generalizing s with
  | nil => exact ⟨.nil, rfl, rfl⟩
  | cons t rest ih =>
    obtain ⟨stored, missing, left⟩ := ih (next now d t s)
    rw [visits, loads_settledIds]
    rcases wanted : wants now d (t, s) with - | -
    · -- the store gives the log
      obtain ⟨settled, log, given⟩ := given_of_wants wanted
      rw [within_of_given settled given, List.filter_cons_of_pos (by simp [wanted]),
        List.filter_cons_of_neg (by simp [wanted])]
      exact ⟨.cons given stored, missing, left⟩
    · rw [within_of_wants wanted, List.filter_cons_of_neg (by simp [wanted]),
        List.filter_cons_of_pos wanted]
      exact ⟨stored, congrArg (t :: ·) missing, left⟩

end Lookup

/-! ### What is fetched and kept -/

namespace Surroundings

variable {σ π ω : Type} {w : Surroundings} {shelf : Shelf} {targets : List Target}

/-- What is missing is fetched, if there is anywhere to ask for it. -/
theorem asked_gather (g : Collector σ π ω) (part : Log → π) (service : Service) :
    (w.gather g part service targets shelf).asked =
      if (w.endpoint? service).isSome then (w.lookup targets shelf).missing else [] := by
  rw [gather_eq]
  split
  · next none =>
    rw [List.isEmpty_iff.mp none, ite_self]
  · rcases w.endpoint? service with - | e
    · rfl
    · rfl

/-- The logs that a fetch hands over, if there is anywhere to fetch from. -/
def handedOver (w : Surroundings) (service : Service) (asked : List Target) : List Log :=
  match w.endpoint? service with
  | none => []
  | some e => (w.fetch service e asked).logs

theorem handedOver_nil (w : Surroundings) (service : Service) : w.handedOver service [] = [] := by
  rw [handedOver]
  split
  · rfl
  · next e _ =>
    rw [fetch, Fetch.run_of_nil rfl]
    rfl

/-- What is handed over comes for the first targets. -/
theorem ids_handedOver (w : Surroundings) (service : Service) (asked : List Target) :
    (w.handedOver service asked).map Log.id <+: asked.map Target.id := by
  rw [handedOver]
  split
  · exact List.nil_prefix
  · next e _ => exact Fetch.ids_logs_run ⟨service, e.host, e.port, asked⟩ w.network

/-- Of the logs that are handed over the ones that can be kept are to be stored. -/
theorem fresh_gather (g : Collector σ π ω) (part : Log → π) (service : Service) :
    (w.gather g part service targets shelf).fresh =
      (w.handedOver service (w.gather g part service targets shelf).asked).filter
        (w.keeps (w.lookedUp targets shelf).store) := by
  rw [asked_gather, gather_eq]
  split
  · next none =>
    rw [List.isEmpty_iff.mp none, ite_self, handedOver_nil]
    rfl
  · rw [handedOver]
    rcases w.endpoint? service with - | e
    · rfl
    · dsimp only
      rw [fetch, Gathering.fresh_receive, fresh_taken, List.nil_append]
      rfl

/-- What is left is what has been looked up, with the logs stored that were to be. -/
theorem shelf_gather_eq_save (g : Collector σ π ω) (part : Log → π) (service : Service) :
    (w.gather g part service targets shelf).shelf =
      save (w.lookedUp targets shelf) (w.gather g part service targets shelf).fresh := by
  have nothing : save (w.lookedUp targets shelf) [] = w.lookedUp targets shelf := by
    rw [save]
    split
    · rfl
    · rfl
  rw [gather_eq]
  split
  · exact nothing.symm
  · rcases w.endpoint? service with - | e
    · exact nothing.symm
    · rfl

end Surroundings

namespace Turn

variable {t t' : Turn} {s' : Store} {d' : Disk}

/-- The targets, of which there are none if there would be too many. -/
def targets (t : Turn) : List Target :=
  t.query.targets.toOption.getD []

/-- The targets that are fetched, for counting or for finding. -/
def fetched (t : Turn) (shelf : Shelf) : List Target :=
  if t.counts then
    (t.surroundings.gather .sum t.query.countPart t.query.service t.targets shelf).asked
  else (t.surroundings.gather .lines t.query.linePart t.query.service t.targets shelf).asked

/-- The fetched logs that are handed to the store, for counting or for finding. -/
def kept (t : Turn) (shelf : Shelf) : List Log :=
  if t.counts then
    (t.surroundings.gather .sum t.query.countPart t.query.service t.targets shelf).fresh
  else (t.surroundings.gather .lines t.query.linePart t.query.service t.targets shelf).fresh

/-- The logs that the fetch hands over, until it ends or fails. -/
def delivered (t : Turn) (shelf : Shelf) : List Log :=
  t.surroundings.handedOver t.query.service (t.fetched shelf)

/-- The targets, each with the store that it meets. -/
def visits (t : Turn) (s : Store) (d : Disk) : List (Target × Store) :=
  Lookup.visits t.surroundings.now d s t.targets

/-- The targets that the store does not give, or that it is not asked for. -/
def lacking (t : Turn) (s : Store) (d : Disk) : List Target :=
  ((t.visits s d).filter (Lookup.wants t.surroundings.now d)).map Prod.fst

/-- The store when the settled targets have been looked up. -/
def lookedUp (t : Turn) (s : Store) (d : Disk) : Store :=
  s.loads d (Lookup.settledIds t.surroundings.now t.targets)

/-- How a query goes about a store.  It takes what the store gives for settled targets and loads
nothing else; it fetches the targets that are not settled, not there or not readable; and it hands
to the store the valid and settled logs among those that are delivered. -/
structure KeepsSettled (t : Turn) (s : Store) (d : Disk) : Prop where
  taken : List.Forall₂ (fun log v => (v.2.load d v.1.id).1 = .ok (some log))
    (t.surroundings.lookup t.targets ⟨some s, d⟩).stored
    ((t.visits s d).filter fun v => !Lookup.wants t.surroundings.now d v)
  lookedUp : t.surroundings.lookedUp t.targets ⟨some s, d⟩ = ⟨some (t.lookedUp s d), d⟩
  fetched : t.fetched ⟨some s, d⟩ =
    if (t.surroundings.endpoint? t.query.service).isSome then t.lacking s d else []
  kept : t.kept ⟨some s, d⟩ = (t.delivered ⟨some s, d⟩).filter fun log =>
    log.valid && log.id.settled t.surroundings.now
  leaves : t.leaves ⟨some s, d⟩ =
    Surroundings.save ⟨some (t.lookedUp s d), d⟩ (t.kept ⟨some s, d⟩)

theorem fetched_eq (t : Turn) (shelf : Shelf) :
    t.fetched shelf = if (t.surroundings.endpoint? t.query.service).isSome
      then (t.surroundings.lookup t.targets shelf).missing else [] := by
  rw [fetched]
  split
  · exact Surroundings.asked_gather ..
  · exact Surroundings.asked_gather ..

theorem kept_eq (t : Turn) (shelf : Shelf) :
    t.kept shelf = (t.delivered shelf).filter
      (t.surroundings.keeps (t.surroundings.lookedUp t.targets shelf).store) := by
  rw [kept, delivered, fetched]
  split
  · exact Surroundings.fresh_gather ..
  · exact Surroundings.fresh_gather ..

theorem leaves_eq (t : Turn) (shelf : Shelf) :
    t.leaves shelf =
      Surroundings.save (t.surroundings.lookedUp t.targets shelf) (t.kept shelf) := by
  have gathered : t.leaves shelf = if t.counts then
        (t.surroundings.gather .sum t.query.countPart t.query.service t.targets shelf).shelf
      else
        (t.surroundings.gather .lines t.query.linePart t.query.service t.targets shelf).shelf := by
    rw [leaves, Surroundings.count, Surroundings.find, targets]
    rcases t.query.targets with reason | all
    · -- a query that is refused leaves the shelf, as if there were no targets
      rcases shelf with ⟨- | s, d⟩
      · split <;> rfl
      · split <;> rfl
    · rfl
  rw [gathered, kept]
  split
  · exact Surroundings.shelf_gather_eq_save ..
  · exact Surroundings.shelf_gather_eq_save ..

theorem lacking_eq (t : Turn) (s : Store) (d : Disk) :
    t.lacking s d = (t.surroundings.lookup t.targets ⟨some s, d⟩).missing :=
  (Lookup.within_visits t.surroundings.now d s t.targets).2.1.symm

theorem keepsSettled (t : Turn) (s : Store) (d : Disk) : t.KeepsSettled s d := by
  obtain ⟨stored, -, left⟩ := Lookup.within_visits t.surroundings.now d s t.targets
  have store : t.surroundings.lookedUp t.targets ⟨some s, d⟩ = ⟨some (t.lookedUp s d), d⟩ := by
    rw [lookedUp, ← left]
    exact congrArg (Shelf.mk _) (t.surroundings.disk_lookedUp t.targets ⟨some s, d⟩)
  refine ⟨stored, store, ?_, ?_, ?_⟩
  · rw [fetched_eq, lacking_eq]
  · rw [kept_eq, store]
    rfl
  · rw [leaves_eq, store]

theorem map_fst_visits (t : Turn) (s : Store) (d : Disk) :
    (t.visits s d).map Prod.fst = t.targets :=
  Lookup.map_fst_visits ..

/-- What is fetched has been met by a store that does not give it, or is not settled. -/
theorem exists_visit_of_fetched {u : Target} (hu : u ∈ t.fetched ⟨some s, d⟩) :
    ∃ v ∈ t.visits s d, Lookup.wants t.surroundings.now d v = true ∧ v.1 = u := by
  rw [(t.keepsSettled s d).fetched] at hu
  split at hu
  · obtain ⟨v, hv, rfl⟩ := List.mem_map.mp hu
    obtain ⟨visited, wanted⟩ := List.mem_filter.mp hv
    exact ⟨v, visited, wanted, rfl⟩
  · cases hu

/-! ### Put again -/

/-- Nothing is lost: every target that the store does not give is delivered, and every log that is
handed to the store is stored. -/
structure LosesNothing (t : Turn) (s : Store) (d : Disk) : Prop where
  delivered : (t.delivered ⟨some s, d⟩).length = (t.lacking s d).length
  stored : ((t.lookedUp s d).insertAll d (t.kept ⟨some s, d⟩)).1 = (t.kept ⟨some s, d⟩).length

/-- The logs that are stored in the end: those that the store has given, and those that have been
handed to it and are in it. -/
inductive Stored (t : Turn) (s : Store) (d : Disk) : LogId → Prop
  | given {v : Target × Store} (visited : v ∈ t.visits s d)
    (had : Lookup.wants t.surroundings.now d v = false) : Stored t s d v.1.id
  | put {log : Log} {left : Store} (handed : log ∈ t.kept ⟨some s, d⟩)
    (left_eq : (t.leaves ⟨some s, d⟩).store = some left)
    (has : (left.contains (t.leaves ⟨some s, d⟩).disk log.id).1 = true) : Stored t s d log.id

/-- What is delivered comes for the first of the targets that the store does not give. -/
theorem ids_delivered (t : Turn) (s : Store) (d : Disk) :
    (t.delivered ⟨some s, d⟩).map Log.id <+: (t.lacking s d).map Target.id := by
  have ids := t.surroundings.ids_handedOver t.query.service (t.fetched ⟨some s, d⟩)
  rw [← delivered] at ids
  refine ids.trans ?_
  rw [(t.keepsSettled s d).fetched]
  split
  · exact List.prefix_refl _
  · exact List.nil_prefix

/-- Where nothing is lost a log is delivered for every target that the store does not give. -/
theorem LosesNothing.exists_delivered (h : t.LosesNothing s d) {u : Target}
    (hu : u ∈ t.lacking s d) : ∃ log ∈ t.delivered ⟨some s, d⟩, log.id = u.id := by
  have all := (t.ids_delivered s d).eq_of_length (by
    rw [List.length_map, List.length_map, h.delivered])
  exact List.mem_map.mp (all ▸ List.mem_map_of_mem hu)

theorem store_save (s : Store) (d : Disk) (logs : List Log) :
    (Surroundings.save ⟨some s, d⟩ logs).store = some (s.insertAll d logs).2.1 := by
  rw [Surroundings.save]
  dsimp only
  split
  · next none =>
    rw [List.isEmpty_iff.mp none]
    rfl
  · exact congrArg some (Store.putAll_store ..)

/-- Where nothing is lost every log that is handed to the store is stored. -/
theorem LosesNothing.stored_of_mem (h : t.LosesNothing s d) (mem : log ∈ t.kept ⟨some s, d⟩) :
    t.Stored s d log.id := by
  refine .put mem ((congrArg Shelf.store (t.keepsSettled s d).leaves).trans (store_save ..)) ?_
  have listed := Store.listed_of_count (n := 0) (h.stored.trans (Nat.zero_add _).symm) mem
  rw [Store.contains_eq, Store.insertAll, listed, Bool.or_true]

/-- A query goes about a store by what is settled.  Where nothing is lost, and what is stored can
still be read from whatever has become of the store, the same query put again, at that time or
later, counting or finding, fetches only targets that were not settled the first time, or whose log
was delivered then and was not valid. -/
theorem fetches_again (t t' : Turn) (s s' : Store) (d d' : Disk) :
    t.KeepsSettled s d ∧
    (t'.query = t.query → t.surroundings.now.epochMillis ≤ t'.surroundings.now.epochMillis →
      t.LosesNothing s d → (∀ id, t.Stored s d id → s'.Gives d' id) →
      ∀ u ∈ t'.fetched ⟨some s', d'⟩, t.surroundings.now.epochMillis < u.id.period.stop ∨
        (∃ log ∈ t.delivered ⟨some s, d⟩, log.id = u.id) ∧
          ∀ log ∈ t.delivered ⟨some s, d⟩, log.id = u.id → log.valid = false) := by
  refine ⟨t.keepsSettled s d, fun same later nothing readable u hu => ?_⟩
  refine or_iff_not_imp_left.mpr fun ended => ?_
  rw [Int.not_lt] at ended
  have settled : u.id.settled t.surroundings.now = true := decide_eq_true ended
  have settled' : u.id.settled t'.surroundings.now = true := decide_eq_true (ended.trans later)
  -- the second time the store has not given the log, and so it was not stored the first time
  obtain ⟨v, visited, wanted, rfl⟩ := exists_visit_of_fetched hu
  have unstored : ¬t.Stored s d v.1.id := fun stored => by
    rw [Lookup.wants_of_gives visited settled' (readable _ stored)] at wanted
    cases wanted
  -- it was a target the first time too, and the store did not give it then either
  have lacking : v.1 ∈ t.lacking s d := by
    have target : v.1 ∈ (t.visits s d).map Prod.fst := by
      rw [map_fst_visits, targets, ← same, ← targets, ← t'.map_fst_visits s' d']
      exact List.mem_map_of_mem visited
    obtain ⟨first, met, same⟩ := List.mem_map.mp target
    rw [← same] at unstored ⊢
    refine List.mem_map_of_mem (List.mem_filter.mpr ⟨met, ?_⟩)
    rw [← Bool.not_eq_false]
    exact fun had => unstored (.given met had)
  refine ⟨nothing.exists_delivered lacking, fun log mem id => ?_⟩
  rw [← Bool.not_eq_true]
  intro valid
  refine unstored (id ▸ nothing.stored_of_mem ?_)
  rw [(t.keepsSettled s d).kept, List.mem_filter, valid, id, settled]
  exact ⟨mem, rfl⟩

end Turn

/-! ### A day that is asked for twice -/

/-- A store in which no call of the disk has failed stays sound when the list is written, or cannot
be. -/
theorem Store.Sound.after_saveIndex {dir : String} {m : Holdings} (h : Sound dir m s d) :
    Sound dir m s (s.saveIndex d).2 := by
  rcases list : s.saveIndex d with ⟨e | ⟨⟩, d'⟩
  · rw [Store.saveIndex] at list
    split at list
    · cases list
    · cases list
      exact h
  · have calm : Calm (s.saveIndex d).1 := calm_of_ok (congrArg Prod.fst list)
    have sound := (h.saveIndex calm).2.1
    rwa [list] at sound

/-- The log is stored, and the store gives it. -/
theorem exists_gives_dayLog :
    ∃ s d, Surroundings.save logsShelf [dayLog] = ⟨some s, d⟩ ∧
      ((Store.bare "logs" 1 none).insertAll logsShelf.disk [dayLog]).1 = 1 ∧
      s.Gives d dayLog.id := by
  obtain ⟨s, d, inserted⟩ := exists_insert_dayLog
  have files : Store.Files "logs" (fun _ => none) logsShelf.disk := by
    refine (Store.Files.of_empty fun name bytes => ?_).1
    rw [Store.components_logs]
    rintro ⟨⟩
  have bare : Store.Sound "logs" (fun _ => none) (.bare "logs" 1 none) logsShelf.disk :=
    ⟨rfl, rfl, ⟨StoreIndex.distinct_empty, fun _ => rfl⟩, by rintro _ ⟨⟩, files⟩
  obtain ⟨s', d', answer, sound⟩ := bare.insert keepable_dayLog valid_dayLog
    (Store.calm_of_ok (congrArg Prod.fst inserted))
  have all : (Store.bare "logs" 1 none).insertAll logsShelf.disk [dayLog] = (1, s', d') := by
    rw [Store.insertAll, List.foldl_cons, List.foldl_nil, Store.insertNext, answer]
  have saved : Surroundings.save logsShelf [dayLog] = ⟨some s', (s'.saveIndex d').2⟩ := by
    show (⟨some ((Store.bare "logs" 1 none).putAll logsShelf.disk [dayLog]).2.1,
      ((Store.bare "logs" 1 none).putAll logsShelf.disk [dayLog]).2.2⟩ : Shelf) = _
    rw [Store.putAll, all]
    dsimp only
    rw [if_neg (by decide)]
    rcases s'.saveIndex d' with ⟨e | ⟨⟩, d''⟩
    · rfl
    · rfl
  refine ⟨_, _, saved, congrArg Prod.fst all, ?_⟩
  exact sound.after_saveIndex.gives (Store.keep_self _ dayLog)

/-- What was said on the day is counted. -/
def dayTurn : Turn := ⟨onePage dayPage, dayQuery .gempir, true⟩

theorem targets_dayTurn : dayTurn.targets = (dayQuery .gempir).wanted := by
  show (dayQuery .gempir).targets.toOption.getD [] = _
  rw [Query.targets_of_le (targetCount_dayQuery_le .gempir)]
  rfl

theorem delivered_dayTurn : dayTurn.delivered logsShelf = [dayLog] := by
  have fetched : dayTurn.fetched logsShelf = (dayQuery .gempir).wanted := by
    rw [Turn.fetched_eq, targets_dayTurn]
    exact missing_dayQuery
  rw [Turn.delivered, fetched]
  exact logs_dayQuery

theorem kept_dayTurn : dayTurn.kept logsShelf = [dayLog] := by
  rw [Turn.kept_eq, delivered_dayTurn, targets_dayTurn]
  show List.filter ((onePage dayPage).keeps
    ((onePage dayPage).lookedUp (dayQuery .gempir).wanted logsShelf).store) [dayLog] = [dayLog]
  rw [lookedUp_dayQuery, List.filter_cons_of_pos keeps_dayLog, List.filter_nil]

theorem losesNothing_dayTurn
    (stored : ((Store.bare "logs" 1 none).insertAll logsShelf.disk [dayLog]).1 = 1) :
    dayTurn.LosesNothing (.bare "logs" 1 none) logsShelf.disk where
  delivered := by
    have lacking : dayTurn.lacking (.bare "logs" 1 none) logsShelf.disk =
        (dayQuery .gempir).wanted := by
      rw [Turn.lacking_eq, targets_dayTurn]
      exact missing_dayQuery
    rw [lacking, wanted_dayQuery]
    exact congrArg List.length delivered_dayTurn
  stored := by
    have looked := (dayTurn.keepsSettled (.bare "logs" 1 none) logsShelf.disk).lookedUp
    rw [targets_dayTurn] at looked
    obtain ⟨same, -⟩ := Shelf.mk.inj (lookedUp_dayQuery.symm.trans looked)
    rw [← Option.some.inj same]
    show ((Store.bare "logs" 1 none).insertAll logsShelf.disk (dayTurn.kept logsShelf)).1 =
      (dayTurn.kept logsShelf).length
    rw [kept_dayTurn]
    exact stored

/-- Only the log of the day is stored. -/
theorem stored_dayTurn {id : LogId}
    (h : dayTurn.Stored (.bare "logs" 1 none) logsShelf.disk id) : id = dayLog.id := by
  cases h with
  | @given v visited had =>
    have target := List.mem_map_of_mem (f := Prod.fst) visited
    rw [Turn.map_fst_visits, targets_dayTurn, wanted_dayQuery, List.mem_singleton] at target
    rw [target]
    rfl
  | @put log left handed =>
    have kept : log ∈ dayTurn.kept logsShelf := handed
    rw [kept_dayTurn, List.mem_singleton] at kept
    rw [kept]

/-- The first time the log is fetched and kept.  When something is looked for in it afterwards, and
the service has nothing any more, nothing is fetched. -/
theorem fetches_again_dayTurn :
    ∃ s d, dayTurn.leaves logsShelf = ⟨some s, d⟩ ∧ dayTurn.kept logsShelf = [dayLog] ∧
      Turn.fetched ⟨onePage "", dayQuery .gempir, false⟩ ⟨some s, d⟩ = [] := by
  obtain ⟨s, d, saved, stored, gives⟩ := exists_gives_dayLog
  refine ⟨s, d, leaves_dayQuery.trans saved, kept_dayTurn, ?_⟩
  have readable : ∀ id, dayTurn.Stored (.bare "logs" 1 none) logsShelf.disk id → s.Gives d id :=
    fun id h => stored_dayTurn h ▸ gives
  refine List.eq_nil_iff_forall_not_mem.mpr fun u hu => ?_
  have again := (Turn.fetches_again dayTurn ⟨onePage "", dayQuery .gempir, false⟩
    (.bare "logs" 1 none) s logsShelf.disk d).2 rfl (Int.le_refl _) (losesNothing_dayTurn stored)
    readable u hu
  obtain ⟨v, visited, -, rfl⟩ := Turn.exists_visit_of_fetched hu
  have target := List.mem_map_of_mem (f := Prod.fst) visited
  rw [Turn.map_fst_visits] at target
  have day : v.1 ∈ dayTurn.targets := target
  rw [targets_dayTurn, wanted_dayQuery, List.mem_singleton] at day
  rw [day] at again
  rcases again with growing | ⟨-, invalid⟩
  · -- the day is long over
    exact absurd growing (by decide)
  · have delivered : dayLog ∈ dayTurn.delivered logsShelf := by
      rw [delivered_dayTurn]
      exact List.mem_singleton_self _
    exact absurd (invalid dayLog delivered rfl) (by decide)

end Scrollback
