/-
What queries leave for the ones after them.  A query leaves logs in the store under the identifiers
of its settled targets, and no others (`Turn.only_leaves`), and takes from the store the logs that
stand under the identifiers of its own settled targets (`Lookup.Takes`).  An identifier says nothing
of the service.  So a query can be answered from what another service gave, but only where both have
been asked about the same channel, period and user (`Surroundings.answers_after_turns`).
-/
import Scrollback.Proofs.Query.Answers
import Scrollback.Proofs.Store.Origin

namespace Scrollback

variable {known : Set LogId} {now : Instant} {d : Disk}

/-! ### Taking logs from a store -/

/-- What is taken from a store for some targets: a log for each target that is not missing, of that
target's identifier, which is settled and known to the store. -/
structure Lookup.Takes (known : Set LogId) (now : Instant) (targets : List Target) (l : Lookup) :
    Prop where
  perm : (l.stored.map Log.id ++ l.missing.map Target.id).Perm (targets.map Target.id)
  missing : l.missing.Sublist targets
  settled : ∀ log ∈ l.stored, log.id.settled now = true
  known : ∀ log ∈ l.stored, log.id ∈ known

namespace Lookup.Takes

variable {l : Lookup} {t : Target} {rest : List Target}

theorem addStored (h : Takes known now rest l) {log : Log} (same : log.id = t.id)
    (settled : t.id.settled now = true) (mem : t.id ∈ known) :
    Takes known now (t :: rest) (l.addStored log) where
  perm := by
    show (log.id :: (l.stored.map Log.id ++ l.missing.map Target.id)).Perm _
    rw [same]
    exact h.perm.cons t.id
  missing := h.missing.cons t
  settled := by
    intro other hother
    rcases List.mem_cons.mp hother with rfl | old
    · rwa [same]
    · exact h.settled other old
  known := by
    intro other hother
    rcases List.mem_cons.mp hother with rfl | old
    · rwa [same]
    · exact h.known other old

theorem addMissing (h : Takes known now rest l) (t : Target) :
    Takes known now (t :: rest) (l.addMissing t) where
  perm := List.perm_middle.trans (h.perm.cons t.id)
  missing := h.missing.cons_cons t
  settled := h.settled
  known := h.known

/-- Of what is not known nothing is taken. -/
theorem eq_of_unknown {targets : List Target} (h : Takes known now targets l)
    (unknown : ∀ t ∈ targets, t.id.settled now = true → t.id ∉ known) : l = ⟨[], targets⟩ := by
  -- a log that is taken would be known
  have none : l.stored = [] := by
    refine List.eq_nil_iff_forall_not_mem.mpr fun log hlog => ?_
    have mem : log.id ∈ targets.map Target.id :=
      h.perm.subset (List.mem_append_left _ (List.mem_map_of_mem hlog))
    obtain ⟨t, ht, same⟩ := List.mem_map.mp mem
    exact unknown t ht (same ▸ h.settled log hlog) (same ▸ h.known log hlog)
  have length := h.perm.length_eq
  rw [none, List.map_nil, List.nil_append, List.length_map, List.length_map] at length
  have all := h.missing.eq_of_length length
  rcases l with ⟨stored, missing⟩
  obtain rfl : stored = [] := none
  obtain rfl : missing = targets := all
  rfl

end Lookup.Takes

/-- Looking a target up brings no other log into the store. -/
theorem Store.Only.next {s : Store} (h : s.Only known) (now : Instant) (d : Disk) (t : Target) :
    (Lookup.next now d t s).Only known := by
  rw [Lookup.next]
  split
  · exact (h.load d t.id).1
  · exact h

theorem Lookup.takes_within {s : Store} (h : s.Only known) (now : Instant) (d : Disk)
    (targets : List Target) :
    Takes known now targets (within now d s targets).1 ∧
      (within now d s targets).2.1.Only known := by
  induction targets generalizing s with
  | nil =>
    refine ⟨⟨.nil, .slnil, ?_, ?_⟩, h⟩
    · rintro _ ⟨⟩
    · rintro _ ⟨⟩
  | cons t rest ih =>
    obtain ⟨takes, left⟩ := ih (h.next now d t)
    rcases wanted : wants now d (t, s) with - | -
    · -- the log of this target is taken
      obtain ⟨settled, log, given⟩ := given_of_wants wanted
      obtain ⟨same, mem⟩ := (h.load d t.id).2 log given
      rw [within_of_given settled given]
      exact ⟨takes.addStored same settled mem, left⟩
    · rw [within_of_wants wanted]
      exact ⟨takes.addMissing t, left⟩

/-! ### Shelves -/

/-- The store, if there is one, has only logs of these identifiers. -/
def Shelf.Only (known : Set LogId) (shelf : Shelf) : Prop :=
  ∀ s, shelf.store = some s → s.Only known

namespace Surroundings

variable {w : Surroundings} {shelf : Shelf} {targets : List Target}

theorem takes_lookup (h : shelf.Only known) (w : Surroundings) (targets : List Target) :
    Lookup.Takes known w.now targets (w.lookup targets shelf) ∧
      (w.lookedUp targets shelf).Only known := by
  rcases shelf with ⟨- | s, d⟩
  · refine ⟨⟨.refl _, .refl _, ?_, ?_⟩, ?_⟩
    · rintro _ ⟨⟩
    · rintro _ ⟨⟩
    · rintro _ ⟨⟩
  · obtain ⟨takes, only⟩ := Lookup.takes_within (h s rfl) w.now d targets
    refine ⟨takes, ?_⟩
    rintro _ ⟨⟩
    exact only

theorem only_save {logs : List Log} (h : shelf.Only known) (mem : ∀ log ∈ logs, log.id ∈ known) :
    (save shelf logs).Only known := by
  rcases shelf with ⟨- | s, d⟩
  · exact h
  · rw [save]
    dsimp only
    split
    · exact h
    · rintro _ ⟨⟩
      rw [Store.putAll_store]
      exact (h s rfl).insertAll d mem

/-- The shelf that a query leaves, whatever it makes of the logs. -/
def leaves (w : Surroundings) (service : Service) (targets : List Target) (shelf : Shelf) :
    Shelf :=
  if (w.lookup targets shelf).missing.isEmpty then w.lookedUp targets shelf
  else
    match w.endpoint? service with
    | none => w.lookedUp targets shelf
    | some e =>
      save (w.lookedUp targets shelf) ((w.fetch service e (w.lookup targets shelf).missing).logs.filter
        (w.keeps (w.lookedUp targets shelf).store))

theorem fresh_taken {σ π ω : Type} (g : Collector σ π ω) (part : Log → π) :
    (w.taken g part targets shelf).fresh = [] := by
  have kept : ∀ (logs : List Log) (s : Gathering σ ω),
      (logs.foldl (fun s log => s.add g (part log)) s).fresh = s.fresh := by
    intro logs
    induction logs with
    | nil => exact fun _ => rfl
    | cons log logs ih => exact fun s => ih _
  exact kept _ _

theorem shelf_gather {σ π ω : Type} (g : Collector σ π ω) (part : Log → π) (service : Service) :
    (w.gather g part service targets shelf).shelf = w.leaves service targets shelf := by
  rw [gather_eq, leaves]
  split
  · rfl
  · rcases w.endpoint? service with - | e
    · rfl
    · dsimp only
      rw [fetch, Gathering.fresh_receive, fresh_taken, List.nil_append]

/-- A query leaves logs of its settled targets, beside those that were there. -/
theorem only_leaves {service : Service} (h : shelf.Only known)
    (asked : ∀ t ∈ targets, t.id.settled w.now = true → t.id ∈ known) :
    (w.leaves service targets shelf).Only known := by
  obtain ⟨takes, only⟩ := w.takes_lookup h targets
  rw [leaves]
  split
  · exact only
  · split
    · exact only
    · next e _ =>
      refine only_save only fun log hlog => ?_
      obtain ⟨fetched, keeps⟩ := List.mem_filter.mp hlog
      have settled : log.id.settled w.now = true := by
        rw [Surroundings.keeps, Bool.and_eq_true] at keeps
        exact keeps.2
      -- what is fetched is what is missing, and so has been asked for
      have mem := (Fetch.ids_logs_run ⟨service, e.host, e.port, (w.lookup targets shelf).missing⟩
        w.network).subset (List.mem_map_of_mem fetched)
      obtain ⟨t, ht, same⟩ := List.mem_map.mp mem
      rw [← same] at settled ⊢
      exact asked t (takes.missing.subset ht) settled

end Surroundings

/-! ### Turns -/

/-- A query, put to count or to find, and the surroundings that it meets. -/
structure Turn where
  surroundings : Surroundings
  query : Query
  counts : Bool

namespace Turn

/-- The shelf afterwards. -/
def leaves (t : Turn) (shelf : Shelf) : Shelf :=
  if t.counts then (t.surroundings.count t.query shelf).shelf
  else (t.surroundings.find t.query shelf).shelf

/-- The identifiers of the settled targets. -/
def asked (t : Turn) : Set LogId :=
  {id | (∃ target ∈ t.query.wanted, target.id = id) ∧ id.settled t.surroundings.now = true}

/-- The shelf after several turns. -/
def leavesAll (turns : List Turn) (shelf : Shelf) : Shelf :=
  turns.foldl (fun shelf t => t.leaves shelf) shelf

/-- The identifiers of the settled targets of several turns. -/
def askedIn (turns : List Turn) : Set LogId :=
  {id | ∃ t ∈ turns, id ∈ t.asked}

variable {t : Turn} {shelf : Shelf}

theorem leaves_of_lt (many : Query.maxTargets < t.query.targetCount) : t.leaves shelf = shelf := by
  obtain ⟨reason, refused⟩ := Query.exists_targets_of_lt many
  rw [leaves, Surroundings.count, Surroundings.find, refused]
  split
  · rfl
  · rfl

/-- Counting and finding leave the same. -/
theorem leaves_of_le (few : t.query.targetCount ≤ Query.maxTargets) :
    t.leaves shelf = t.surroundings.leaves t.query.service t.query.wanted shelf := by
  rw [leaves, Surroundings.count, Surroundings.find, Query.targets_of_le few]
  split
  · exact Surroundings.shelf_gather ..
  · exact Surroundings.shelf_gather ..

theorem only_leaves (h : shelf.Only known) (sub : t.asked ⊆ known) :
    (t.leaves shelf).Only known := by
  rcases Nat.lt_or_ge Query.maxTargets t.query.targetCount with many | few
  · rw [leaves_of_lt many]
    exact h
  · rw [leaves_of_le few]
    exact Surroundings.only_leaves h fun target ht settled => sub ⟨⟨target, ht, rfl⟩, settled⟩

theorem only_leavesAll {turns : List Turn} (h : shelf.Only known)
    (sub : ∀ t ∈ turns, t.asked ⊆ known) : (leavesAll turns shelf).Only known := by
  rw [leavesAll]
  induction turns generalizing shelf with
  | nil => exact h
  | cons t turns ih =>
    exact ih (only_leaves h (sub t List.mem_cons_self)) fun t ht =>
      sub t (List.mem_cons_of_mem _ ht)

end Turn

end Scrollback
