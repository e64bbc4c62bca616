/-
Looking for logs.  A store that does not find a log, or cannot read it, is left as it was; one that
finds it has it first in memory, and the others after it as they were, but for the one that was used
least recently, where there is no room for both (`Store.Fronted`).  Reading the list replaces the
list or does nothing.  All of it holds whatever lies on the disk, and no file changes
(`Store.frame_of_lookups`).

What a store does to its memory comes down to a few operations of that memory, so that what these
keep holds of every store in use (`Store.MemoryInvariant.inUse`).
-/
import Scrollback.Proofs.Store.LastPut
import Scrollback.Proofs.Store.Refusal

namespace Scrollback

/-! ### Lists that cannot be read -/

/-- A period needs two times of the calendar, in order. -/
theorem Period.toOption_make?_eq_none {start stop : Int}
    (wrong : ¬(Instant.minMillis ≤ start ∧ start ≤ stop ∧ stop ≤ Instant.maxMillis)) :
    (make? start stop).toOption = none := by
  unfold make?
  split
  · rfl
  · next begins =>
    split
    · rfl
    · next ends =>
      split
      · next ordered =>
        exact absurd ⟨(not_not.mp begins).1, ordered, (not_not.mp ends).2⟩ wrong
      · rfl

theorem Period.ofJson?_eq_none {v first last : JsonValue} {start stop : Int}
    (bounded : v.fields? ["begin", "end"] = some [some first, some last])
    (begins : first.asInt? = some start) (ends : last.asInt? = some stop)
    (wrong : ¬(Instant.minMillis ≤ start ∧ start ≤ stop ∧ stop ≤ Instant.maxMillis)) :
    ofJson? v = none := by
  rw [ofJson?, bounded]
  simp [begins, ends, toOption_make?_eq_none wrong]

theorem LogId.ofJson?_eq_none {v period : JsonValue} {channel user : Option JsonValue}
    (named : v.fields? ["channel", "period", "user"] = some [channel, some period, user])
    (wrong : Period.ofJson? period = none) : ofJson? v = none := by
  rw [ofJson?, named]
  rcases channel with - | channel
  · rfl
  · rcases user with - | user
    · simp [wrong]
    · simp [wrong]

namespace StoreIndex

/-- An entry of a list whose period is reversed, or bounded by a time that the calendar does not
have. -/
inductive Misdated (v : JsonValue) : Prop
  | intro {id period first last : JsonValue} {path channel user : Option JsonValue}
    {start stop : Int} (entry : v.fields? ["id", "path"] = some [some id, path])
    (named : id.fields? ["channel", "period", "user"] = some [channel, some period, user])
    (bounded : period.fields? ["begin", "end"] = some [some first, some last])
    (begins : first.asInt? = some start) (ends : last.asInt? = some stop)
    (wrong : ¬(Instant.minMillis ≤ start ∧ start ≤ stop ∧ stop ≤ Instant.maxMillis))

theorem Misdated.entryOfJson?_eq_none {v : JsonValue} (h : Misdated v) : entryOfJson? v = none := by
  obtain @⟨_, _, _, _, path, _, _, _, _, entry, named, bounded, begins, ends, wrong⟩ := h
  have unread := LogId.ofJson?_eq_none named (Period.ofJson?_eq_none bounded begins ends wrong)
  rw [entryOfJson?, entry]
  rcases path with - | path
  · rfl
  · simp [unread]

/-- One such entry is enough, and nothing of the list is read. -/
theorem ofBytes?_of_misdated {bytes : ByteArray} {items : List JsonValue} {v : JsonValue}
    (parsed : JsonValue.parse? bytes.data.toList = some (.list items)) (mem : v ∈ items)
    (h : Misdated v) : ofBytes? bytes = none := by
  rw [ofBytes?, parsed]
  show items.mapM entryOfJson? >>= _ = none
  rw [List.mapM_eq_none mem h.entryOfJson?_eq_none]
  rfl

end StoreIndex

/-! ### What a store does to its memory -/

namespace Store

variable {s s' : Store} {d d' : Disk} {id : LogId} {log : Log}

/-- What holds of a memory without entries and is kept by all that a store does to its memory: logs
are used, brought in, forgotten, and dropped for lack of room. -/
structure MemoryInvariant (P : Recency LogId LogCopy → Prop) : Prop where
  empty : ∀ capacity, P (.empty capacity)
  get : ∀ {r} id, P r → P (r.get id).2
  put : ∀ {r copy log} id, copy.memory = some log → P r → P (r.put id copy).2
  remove : ∀ {r} id, P r → P (r.remove id).2
  resize : ∀ {r} capacity, P r → P (r.resize capacity).2

/-- A store that has been opened, a mode set or not, and then been asked for this and that, whatever
lay on the disk each time. -/
inductive InUse : Store → Prop
  | opened {d d' : Disk} {dir : String} {capacity : Nat} {s : Store}
    (h : openAt d dir capacity = (.ok s, d')) (mode : Option Mode) : InUse { s with mode := mode }
  | run {s : Store} (h : InUse s) (d : Disk) (op : Op) : InUse (op.run s d).1

theorem Reachable.inUse (h : Reachable s d) : InUse s := by
  induction h with
  | opened h mode => exact .opened h mode
  | run _ op ih => exact ih.run _ op

theorem put_store (s : Store) (d : Disk) (log : Log) :
    (s.put d log).2.1 = (s.insert d log).2.1 := by
  rw [put]
  rcases s.insert d log with ⟨e | l, s₁, d₁⟩
  · rfl
  · dsimp only
    split
    · rfl
    · rfl

theorem cache_remove (s : Store) (d : Disk) (id : LogId) :
    (s.remove d id).2.1.cache = (s.cache.remove id).2 := by
  rw [remove]
  dsimp only
  split
  · rfl
  · split
    · rfl
    · split
      · rfl
      · rfl

namespace MemoryInvariant

variable {P : Recency LogId LogCopy → Prop}

theorem insert (inv : MemoryInvariant P) (h : P s.cache) (d : Disk) (log : Log) :
    P (s.insert d log).2.1.cache := by
  rcases s.insert_cases d log with ⟨e, d', failed⟩ | ⟨copy, d', -, -, memory, done⟩
  · rw [failed]
    exact h
  · rw [done]
    exact inv.put log.id memory h

theorem load (inv : MemoryInvariant P) (h : P s.cache) (d : Disk) (id : LogId) :
    P (s.load d id).2.1.cache := by
  have got := inv.get id h
  have loading := s.loading d id
  generalize s.load d id = r at loading ⊢
  cases loading with
  | resident => exact got
  | unlisted => exact got
  | failed => exact got
  | read => exact inv.put id rfl got

theorem run (inv : MemoryInvariant P) (h : P s.cache) (d : Disk) (op : Op) :
    P (op.run s d).1.cache := by
  cases op with
  | put log =>
    show P (s.put d log).2.1.cache
    rw [put_store]
    exact inv.insert h d log
  | putAll logs =>
    show P (s.putAll d logs).2.1.cache
    rw [putAll_store]
    exact insertAll_keeps (P := fun s _ => P s.cache) (fun _ d log _ h => inv.insert h d log) h 0
  | get id => exact inv.get id h
  | load id => exact inv.load h d id
  | remove id =>
    show P (s.remove d id).2.1.cache
    rw [cache_remove]
    exact inv.remove id h
  | contains id => exact h
  | resize capacity => exact inv.resize capacity h
  | saveIndex => exact h
  | loadIndex =>
    show P (s.loadIndex d).2.1.cache
    rw [cache_loadIndex]
    exact h
  | reopen capacity =>
    show P ((Store.openAt d s.dir capacity).1.toOption.getD s).cache
    rcases opened : (Store.openAt d s.dir capacity).1 with e | s₁
    · exact h
    · show P s₁.cache
      rw [cache_openAt opened]
      exact inv.empty capacity

theorem inUse (inv : MemoryInvariant P) (h : InUse s) : P s.cache := by
  induction h with
  | opened h mode =>
    show P (_ : Store).cache
    rw [cache_openAt (congrArg Prod.fst h)]
    exact inv.empty _
  | run _ d op ih => exact inv.run ih d op

end MemoryInvariant

/-- Every identifier is in memory once, with its log, and there are not too many of them. -/
structure Filled (r : Recency LogId LogCopy) : Prop where
  sound : r.Sound
  logs : ∀ e ∈ r.entries, ∃ log, e.2.memory = some log

theorem memoryInvariant_filled : MemoryInvariant Filled where
  empty capacity := ⟨.empty capacity, by rintro _ ⟨⟩⟩
  get id h := ⟨h.sound.modify id _, fun e he => h.logs e (Recency.mem_get he)⟩
  put id memory h := by
    refine ⟨h.sound.put id _, fun e he => ?_⟩
    rcases Recency.mem_put he with rfl | ⟨old, -⟩
    · exact ⟨_, memory⟩
    · exact h.logs e old
  remove id h := ⟨h.sound.remove id, fun e he => h.logs e (Recency.mem_others.mp he).1⟩
  resize capacity h := ⟨h.sound.resize capacity, fun e he => h.logs e (Recency.mem_resize he)⟩

/-- A log that is not given from memory is not there, and asking for it changes nothing. -/
theorem Filled.get_of_absent (h : Filled s.cache) (absent : (s.get d id).1 = none) :
    id ∉ s.residentIds ∧ (s.get d id).2.1 = s := by
  have unknown : id ∉ s.residentIds := by
    intro known
    obtain ⟨pre, copy, post, split⟩ := Recency.exists_split known
    obtain ⟨log, memory⟩ := h.logs (id, copy) (by rw [split]; simp)
    have got : (s.get d id).1 = some log := by
      rw [get_eq, Recency.get, Recency.modify_of_split h.sound.nodup split]
      exact memory
    cases got.symm.trans absent
  refine ⟨unknown, ?_⟩
  rw [get_eq, Recency.get, Recency.modify_of_not_mem unknown]

/-! ### Looking for a log -/

/-- There is no room for another log. -/
def Full (s : Store) : Prop :=
  s.cache.capacity ≠ 0 ∧ s.residentIds.length = s.cache.capacity

/-- A log has been used: it is the first one in memory.  The others are still there in their order,
but the one that was used least recently is dropped if the log is new there and finds no room. -/
structure Fronted (s : Store) (id : LogId) (log : Log) (s' : Store) : Prop where
  dir_eq : s'.dir = s.dir
  index_eq : s'.index = s.index
  mode_eq : s'.mode = s.mode
  capacity_eq : s'.cache.capacity = s.cache.capacity
  front : ∃ copy rest, copy.memory = some log ∧ s'.cache.entries = (id, copy) :: rest ∧
    ((id ∈ s.residentIds ∨ ¬s.Full) ∧ rest = s.cache.others id ∨
      (id ∉ s.residentIds ∧ s.Full) ∧ ∃ last, s.cache.entries = rest ++ [last])

theorem fronted_of_get (got : (s.get d id).1 = some log) : Fronted s id log (s.get d id).2.1 := by
  obtain ⟨copy, (found : (s.cache.get id).1 = some copy), memory⟩ := Option.bind_eq_some_iff.mp got
  have known : id ∈ s.residentIds := List.mem_map_of_mem (Recency.mem_of_get found)
  rw [Recency.get, Recency.modify] at found
  rcases peeked : s.cache.peek? id with - | copy'
  · rw [peeked] at found
    cases found
  · rw [peeked] at found
    obtain rfl : copy' = copy := Option.some.inj found
    have answer : (s.get d id).2.1 =
        { s with cache := { s.cache with entries := (id, copy') :: s.cache.others id } } := by
      rw [get_eq, Recency.get, Recency.modify, peeked]
      rfl
    rw [answer]
    exact ⟨rfl, rfl, rfl, rfl, copy', _, memory, rfl, .inl ⟨.inl known, rfl⟩⟩

theorem fronted_of_put (h : Filled s.cache) (unknown : id ∉ s.residentIds) {copy : LogCopy}
    (memory : copy.memory = some log) :
    Fronted s id log { s with cache := (s.cache.put id copy).2 } := by
  rw [Recency.put_of_not_mem unknown]
  by_cases full : s.cache.isFull = true
  · rw [if_pos full]
    rw [Recency.isFull, Bool.and_eq_true, bne_iff_ne, decide_eq_true_eq] at full
    obtain ⟨bounded, least⟩ := full
    have full : s.Full := by
      refine ⟨bounded, ?_⟩
      rw [residentIds_eq, Recency.keys, List.length_map]
      exact Nat.le_antisymm (h.sound.bounded bounded) least
    -- there is an entry to be dropped
    have some : s.cache.entries ≠ [] := by
      intro none
      rw [Recency.size, none] at least
      exact bounded (Nat.le_zero.mp least)
    exact ⟨rfl, rfl, rfl, rfl, copy, _, memory, rfl,
      .inr ⟨⟨unknown, full⟩, _, (List.dropLast_append_getLast some).symm⟩⟩
  · rw [if_neg full]
    have room : ¬s.Full := by
      rintro ⟨bounded, length⟩
      rw [residentIds_eq, Recency.keys, List.length_map] at length
      apply full
      rw [Recency.isFull, Bool.and_eq_true, bne_iff_ne, decide_eq_true_eq]
      exact ⟨bounded, length.ge⟩
    exact ⟨rfl, rfl, rfl, rfl, copy, _, memory, rfl,
      .inl ⟨.inr room, (Recency.others_of_not_mem unknown).symm⟩⟩

/-- Loading a log leaves the store, or brings the log to the front. -/
theorem Filled.load (h : Filled s.cache) (d : Disk) (id : LogId) :
    (∀ log, (s.load d id).1 = .ok (some log) → Fronted s id log (s.load d id).2.1) ∧
      ((∀ log, (s.load d id).1 ≠ .ok (some log)) → (s.load d id).2.1 = s) := by
  have loading := s.loading d id
  generalize s.load d id = r at loading ⊢
  cases loading with
  | resident got =>
    refine ⟨?_, fun other => absurd rfl (other _)⟩
    rintro _ ⟨⟩
    exact fronted_of_get got
  | unlisted absent => exact ⟨by rintro _ ⟨⟩, fun _ => (h.get_of_absent absent).2⟩
  | failed absent => exact ⟨by rintro _ ⟨⟩, fun _ => (h.get_of_absent absent).2⟩
  | read absent =>
    refine ⟨?_, fun other => absurd rfl (other _)⟩
    rintro _ ⟨⟩
    obtain ⟨unknown, same⟩ := h.get_of_absent absent
    rw [same]
    exact fronted_of_put h unknown rfl

/-! ### Reading the list -/

/-- The list is not read if its file cannot be, or does not hold a list.  That the file is missing
does not matter. -/
theorem loadIndex_eq_error {e : StoreError} :
    (s.loadIndex d).1 = .error e ↔
      (∃ cause, d.read s.indexPath = .error cause ∧ cause ≠ .notFound ∧
        e = .disk s.indexPath cause) ∨
      ∃ bytes, d.read s.indexPath = .ok bytes ∧ StoreIndex.ofBytes? bytes = none ∧
        e = .bookkeeping := by
  have relisting := s.relisting d
  generalize s.loadIndex d = r at relisting ⊢
  cases relisting with
  | missing read => simp [read]
  | unread read other => simp [read, other, eq_comm]
  | malformed read parsed => simp [read, parsed, eq_comm]
  | parsed read parsed => simp [read, parsed]

/-- It only looks, and does not write. -/
def Op.Looks : Op → Prop
  | get _ | load _ | contains _ | loadIndex => True
  | _ => False

/-- A log is put into a store that has just been opened. -/
theorem exists_put_greeting :
    ∃ (s : Store) (d d' : Disk), InUse s ∧
      (bare "logs" 1 none).put d greeting = (.ok greeting, s, d') ∧
      d.Reaches (filePath "logs" greeting.id) ∧
      d.node? (Path.components (filePath "logs" greeting.id)) = none := by
  obtain ⟨d, opened, directory, ⟨list, unlisted⟩, file, free⟩ := exists_emptyLogs
  have valid : greeting.valid = true := by rw [greeting_eq]
  obtain ⟨s, d', put, -⟩ := @put_of_reaches "logs" (bare "logs" 1 none) d greeting rfl rfl
    keepable_greeting valid (makeDirectories_greeting directory) file (by simp [free]) list
    (by simp [unlisted])
  have start : InUse (bare "logs" 1 none) := .opened opened none
  have run := start.run d (.put greeting)
  rw [show (Op.put greeting).run (bare "logs" 1 none) d = (s, d') from
    congrArg Prod.snd put] at run
  exact ⟨s, d, d', run, put, file, free⟩

/-- A store in use looks for logs on any disk.  If it does not give a log, it is as it was; if it
does, the log has been brought to the front.  The list is read just when it is missing or its file
holds a list, which it does not if one period in it is wrong; then nothing but the list is replaced,
and otherwise nothing at all.  No file is touched. -/
theorem frame_of_lookups (h : InUse s) (d : Disk) :
    (∀ id, (s.load d id).1 = .ok none ∨ (∃ e, (s.load d id).1 = .error e) →
      (s.load d id).2 = (s, d)) ∧
    (∀ id log, (s.load d id).1 = .ok (some log) → Fronted s id log (s.load d id).2.1) ∧
    (∀ e, (s.loadIndex d).1 = .error e ↔
      (∃ cause, d.read s.indexPath = .error cause ∧ cause ≠ .notFound ∧
        e = .disk s.indexPath cause) ∨
      ∃ bytes, d.read s.indexPath = .ok bytes ∧ StoreIndex.ofBytes? bytes = none ∧
        e = .bookkeeping) ∧
    (∀ bytes items v, d.read s.indexPath = .ok bytes →
      JsonValue.parse? bytes.data.toList = some (.list items) → v ∈ items →
      StoreIndex.Misdated v → (s.loadIndex d).1 = .error .bookkeeping) ∧
    (∀ e, (s.loadIndex d).1 = .error e → (s.loadIndex d).2 = (s, d)) ∧
    ((s.loadIndex d).1 = .ok () → ∃ x, (s.loadIndex d).2 = ({ s with index := x }, d)) ∧
    ∀ op : Op, op.Looks → (op.run s d).2 = d := by
  have filled := memoryInvariant_filled.inUse h
  refine ⟨fun id nothing => Prod.ext ?_ (s.disk_load d id), fun id => (filled.load d id).1,
    fun _ => loadIndex_eq_error, ?_, fun _ => loadIndex_of_error,
    fun _ => ⟨_, s.eq_loadIndex d⟩, ?_⟩
  · refine (filled.load d id).2 fun log loaded => ?_
    rcases nothing with none | ⟨e, failed⟩
    · cases none.symm.trans loaded
    · cases failed.symm.trans loaded
  · intro bytes items v read parsed mem misdated
    exact loadIndex_eq_error.mpr
      (.inr ⟨bytes, read, StoreIndex.ofBytes?_of_misdated parsed mem misdated, rfl⟩)
  · intro op looks
    cases op with
    | get | contains => rfl
    | load id => exact s.disk_load d id
    | loadIndex => exact s.disk_loadIndex d
    | _ => exact looks.elim

/-- A log that has been put is loaded, although all files have been removed since. -/
theorem frame_of_lookups_greeting :
    ∃ s, InUse s ∧ (s.load ⟨[]⟩ greeting.id).1 = .ok (some greeting) ∧
      Fronted s greeting.id greeting (s.load ⟨[]⟩ greeting.id).2.1 := by
  obtain ⟨s, d, d', inUse, put, -⟩ := exists_put_greeting
  have loaded := load_of_get ⟨[]⟩ (get_of_put put ⟨[]⟩)
  exact ⟨s, inUse, loaded, (frame_of_lookups inUse ⟨[]⟩).2.1 _ _ loaded⟩

end Store

end Scrollback
