/-
Which logs a store can give.  Whatever the disk does, and whatever lies on it, memory and list have
only identifiers of logs that have been put, and a log that is loaded has the identifier that was
asked for (`Store.Only`, `Store.Only.load`).
-/
import Scrollback.Proofs.Recency.Basic
import Scrollback.Proofs.Store.Copy
import Scrollback.Proofs.Store.Index
import Scrollback.Store.Basic

namespace Scrollback

variable {known : Set LogId} {id : LogId} {d : Disk} {log : Log}

/-! ### Copies -/

/-- A log that is read from a file is the one that the file is for. -/
theorem LogCopy.id_of_readFile {c : LogCopy} (h : c.readFile d = .ok log) : log.id = c.id := by
  obtain ⟨-, -, -, same⟩ := readFile_eq_ok.mp h
  exact same

theorem LogCopy.memory_save (c : LogCopy) (d : Disk) (mode : Option Mode) :
    (c.save d mode).2.1.memory = c.memory := by
  rcases c.copy_save d mode with same | same
  · rw [same]
  · rw [same]

theorem LogCopy.id_save (c : LogCopy) (d : Disk) (mode : Option Mode) :
    (c.save d mode).2.1.id = c.id := by
  rcases c.copy_save d mode with same | same
  · rw [same]
  · rw [same]

namespace Store

variable {s : Store}

/-! ### The memory -/

theorem contains_eq (s : Store) (d : Disk) (id : LogId) :
    s.contains d id = (s.cache.contains id || (s.index.path? id).isSome, s, d) := rfl

theorem get_eq (s : Store) (d : Disk) (id : LogId) :
    s.get d id = ((s.cache.get id).1.bind LogCopy.memory,
      { s with cache := (s.cache.get id).2 }, d) := rfl

theorem residentIds_eq (s : Store) : s.residentIds = s.cache.keys := rfl

/-! ### Loading -/

/-- What can come of loading a log: it is in memory, the list has no file of it, or its file is
read, which may fail, and it comes into memory. -/
inductive Loading (s : Store) (d : Disk) (id : LogId) :
    Except StoreError (Option Log) × Store × Disk → Prop
  | resident {log : Log} (got : (s.get d id).1 = some log) :
    Loading s d id (.ok (some log), (s.get d id).2.1, d)
  | unlisted (absent : (s.get d id).1 = none) (listed : s.index.path? id = none) :
    Loading s d id (.ok none, (s.get d id).2.1, d)
  | failed {path : String} {e : StoreError} (absent : (s.get d id).1 = none)
    (listed : s.index.path? id = some path)
    (read : (LogCopy.ofFile d id path).readFile d = .error e) :
    Loading s d id (.error e, (s.get d id).2.1, d)
  | read {path : String} {log : Log} (absent : (s.get d id).1 = none)
    (listed : s.index.path? id = some path)
    (read : (LogCopy.ofFile d id path).readFile d = .ok log) :
    Loading s d id (.ok (some log), { (s.get d id).2.1 with
      cache := ((s.get d id).2.1.cache.put id ⟨id, path, some log, true⟩).2 }, d)

theorem loading (s : Store) (d : Disk) (id : LogId) : Loading s d id (s.load d id) := by
  rcases got : (s.get d id).1 with - | log
  · have answer : s.get d id = (none, (s.get d id).2.1, d) := Prod.ext got rfl
    have index : (s.get d id).2.1.index = s.index := rfl
    rw [Store.load, answer]
    dsimp only
    rw [index]
    rcases listed : s.index.path? id with - | path
    · exact .unlisted got listed
    · dsimp only
      rw [LogCopy.load]
      dsimp only [LogCopy.ofFile]
      rcases read : (LogCopy.ofFile d id path).readFile d with e | log
      · rw [LogCopy.ofFile] at read
        rw [read]
        exact .failed got listed read
      · rw [LogCopy.ofFile] at read
        rw [read]
        exact .read got listed read
  · have answer : s.get d id = (some log, (s.get d id).2.1, d) := Prod.ext got rfl
    rw [Store.load, answer]
    exact .resident got

/-- A log that is in memory is not read from the disk. -/
theorem load_of_get (d : Disk)
    (got : (s.get d id).1 = some log) : (s.load d id).1 = .ok (some log) := by
  have loading := s.loading d id
  generalize s.load d id = r at loading ⊢
  cases loading with
  | resident same => rw [← Option.some.inj (got.symm.trans same)]
  | unlisted absent => cases got.symm.trans absent
  | failed absent => cases got.symm.trans absent
  | read absent => cases got.symm.trans absent

/-- A log that is neither in memory nor in the list is not there. -/
theorem load_of_unlisted (d : Disk) (absent : (s.get d id).1 = none)
    (unlisted : s.index.path? id = none) : (s.load d id).1 = .ok none := by
  have loading := s.loading d id
  generalize s.load d id = r at loading ⊢
  cases loading with
  | resident got => cases got.symm.trans absent
  | unlisted => rfl
  | failed _ listed => cases listed.symm.trans unlisted
  | read _ listed => cases listed.symm.trans unlisted

/-- A log that is not in memory is read from the file that the list has for it. -/
theorem load_of_absent {path : String} (d : Disk) (absent : (s.get d id).1 = none)
    (listed : s.index.path? id = some path) :
    (s.load d id).1 = ((LogCopy.ofFile d id path).readFile d).map some := by
  have loading := s.loading d id
  generalize s.load d id = r at loading ⊢
  cases loading with
  | resident got => cases got.symm.trans absent
  | unlisted _ unlisted => cases listed.symm.trans unlisted
  | failed _ same read =>
    obtain rfl := Option.some.inj (listed.symm.trans same)
    rw [read]
    rfl
  | read _ same read =>
    obtain rfl := Option.some.inj (listed.symm.trans same)
    rw [read]
    rfl

/-- A log that is loaded is in memory, or is read from the file that the list has for it. -/
theorem load_cases (h : (s.load d id).1 = .ok (some log)) :
    (s.get d id).1 = some log ∨ ∃ path, s.index.path? id = some path ∧
      (LogCopy.ofFile d id path).readFile d = .ok log := by
  have loading := s.loading d id
  generalize s.load d id = r at loading h
  cases loading with
  | resident got =>
    cases h
    exact .inl got
  | unlisted => cases h
  | failed => cases h
  | read _ listed read =>
    cases h
    exact .inr ⟨_, listed, read⟩

/-- Loading brings a log into memory only from the file that the list has for it. -/
theorem mem_load {e : LogId × LogCopy} (h : e ∈ (s.load d id).2.1.cache.entries) :
    e ∈ s.cache.entries ∨ ∃ path log, s.index.path? id = some path ∧
      (LogCopy.ofFile d id path).readFile d = .ok log ∧ e = (id, ⟨id, path, some log, true⟩) := by
  have used : ∀ e ∈ (s.get d id).2.1.cache.entries, e ∈ s.cache.entries := fun e => Recency.mem_get
  have loading := s.loading d id
  generalize s.load d id = r at loading h
  cases loading with
  | resident => exact .inl (used e h)
  | unlisted => exact .inl (used e h)
  | failed => exact .inl (used e h)
  | read _ listed read =>
    rcases Recency.mem_put h with rfl | ⟨old, -⟩
    · exact .inr ⟨_, _, listed, read, rfl⟩
    · exact .inl (used e old)

/-- Loading changes nothing but the memory. -/
theorem eq_load (s : Store) (d : Disk) (id : LogId) :
    (s.load d id).2 = ({ s with cache := (s.load d id).2.1.cache }, d) := by
  have loading := s.loading d id
  generalize s.load d id = r at loading ⊢
  cases loading with
  | resident => rfl
  | unlisted => rfl
  | failed => rfl
  | read => rfl

theorem index_load (s : Store) (d : Disk) (id : LogId) : (s.load d id).2.1.index = s.index := by
  rw [eq_load]

theorem disk_load (s : Store) (d : Disk) (id : LogId) : (s.load d id).2.2 = d := by
  rw [eq_load]

/-! ### Reading the list -/

/-- What can come of reading the list: its file is missing, which stands for an empty list, or it
cannot be read, or it does not hold a list, or it does. -/
inductive Relisting (s : Store) (d : Disk) : Except StoreError Unit × Store × Disk → Prop
  | missing (read : d.read s.indexPath = .error .notFound) :
    Relisting s d (.ok (), { s with index := .empty }, d)
  | unread {cause : DiskError} (read : d.read s.indexPath = .error cause)
    (other : cause ≠ .notFound) : Relisting s d (.error (.disk s.indexPath cause), s, d)
  | malformed {bytes : ByteArray} (read : d.read s.indexPath = .ok bytes)
    (parsed : StoreIndex.ofBytes? bytes = none) : Relisting s d (.error .bookkeeping, s, d)
  | parsed {bytes : ByteArray} {x : StoreIndex} (read : d.read s.indexPath = .ok bytes)
    (parsed : StoreIndex.ofBytes? bytes = some x) :
    Relisting s d (.ok (), { s with index := x }, d)

theorem relisting (s : Store) (d : Disk) : Relisting s d (s.loadIndex d) := by
  rw [Store.loadIndex]
  split
  · next missing => exact .missing missing
  · next cause other read => exact .unread read other
  · next bytes read =>
    split
    · next parsed => exact .parsed read parsed
    · next malformed => exact .malformed read malformed

/-- Reading the list changes nothing but the list. -/
theorem eq_loadIndex (s : Store) (d : Disk) :
    (s.loadIndex d).2 = ({ s with index := (s.loadIndex d).2.1.index }, d) := by
  have relisting := s.relisting d
  generalize s.loadIndex d = r at relisting ⊢
  cases relisting with
  | missing => rfl
  | unread => rfl
  | malformed => rfl
  | parsed => rfl

/-- If it fails it changes nothing at all. -/
theorem loadIndex_of_error {e : StoreError} (failed : (s.loadIndex d).1 = .error e) :
    (s.loadIndex d).2 = (s, d) := by
  have relisting := s.relisting d
  generalize s.loadIndex d = r at failed relisting ⊢
  cases relisting with
  | missing => cases failed
  | unread => rfl
  | malformed => rfl
  | parsed => cases failed

theorem disk_loadIndex (s : Store) (d : Disk) : (s.loadIndex d).2.2 = d := by
  rw [eq_loadIndex]

theorem cache_loadIndex (s : Store) (d : Disk) : (s.loadIndex d).2.1.cache = s.cache := by
  rw [eq_loadIndex]

/-- A store without any logs. -/
def bare (dir : String) (capacity : Nat) (mode : Option Mode) : Store :=
  ⟨dir, .empty capacity, .empty, mode⟩

/-- To open a store is to read the list into one that has nothing. -/
theorem openAt_eq {d' : Disk} {dir : String} {capacity : Nat}
    (made : d.makeDirectories dir = (.ok (), d')) :
    openAt d dir capacity =
      (((bare dir capacity none).loadIndex d').1.map fun _ =>
        ((bare dir capacity none).loadIndex d').2.1, d') := by
  have blank : ⟨dir, Memory.empty capacity, .empty, none⟩ = bare dir capacity none := rfl
  have relisting := (bare dir capacity none).relisting d'
  rw [openAt, made]
  dsimp only
  rw [blank]
  generalize (bare dir capacity none).loadIndex d' = r at relisting ⊢
  cases relisting with
  | missing => rfl
  | unread => rfl
  | malformed => rfl
  | parsed => rfl

theorem disk_openAt (d : Disk) (dir : String) (capacity : Nat) :
    (openAt d dir capacity : Except StoreError Store × Disk).2 = (d.makeDirectories dir).2 := by
  rcases made : d.makeDirectories dir with ⟨e | ⟨⟩, d'⟩
  · rw [openAt, made]
  · rw [openAt_eq made]

/-- The list has been read into a store that is open. -/
theorem exists_loadIndex_of_openAt {dir : String} {capacity : Nat}
    (h : (openAt d dir capacity).1 = .ok s) :
    ∃ d', d.makeDirectories dir = (.ok (), d') ∧
      (bare dir capacity none).loadIndex d' = (.ok (), s, d') := by
  rcases made : d.makeDirectories dir with ⟨e | ⟨⟩, d'⟩
  · rw [openAt, made] at h
    cases h
  · rw [openAt_eq made] at h
    refine ⟨d', rfl, ?_⟩
    have relisting := (bare dir capacity none).relisting d'
    generalize (bare dir capacity none).loadIndex d' = r at h relisting ⊢
    cases relisting with
    | unread => cases h
    | malformed => cases h
    | missing =>
      cases h
      rfl
    | parsed =>
      cases h
      rfl

theorem cache_openAt {dir : String} {capacity : Nat}
    (h : (openAt d dir capacity).1 = .ok s) : s.cache = .empty capacity := by
  obtain ⟨d', -, loaded⟩ := exists_loadIndex_of_openAt h
  have same := cache_loadIndex (bare dir capacity none) d'
  rwa [loaded] at same

/-! ### Keeping logs -/

/-- Writing a log fails and leaves the store, or brings the log into the list and into memory.  Only
a valid log is written. -/
theorem insert_cases (s : Store) (d : Disk) (log : Log) :
    (∃ e d', s.insert d log = (.error e, s, d')) ∨
    ∃ copy d', log.valid = true ∧ copy.id = log.id ∧ copy.memory = some log ∧
      s.insert d log = (.ok log, { s with
        index := s.index.insert log.id (s.pathOf log.id)
        cache := (s.cache.put log.id copy).2 }, d') := by
  rw [Store.insert]
  split
  · exact .inl ⟨_, _, rfl⟩
  · next valid =>
    have named := (LogCopy.ofLog d log (s.pathOf log.id)).id_save d s.mode
    have memory := (LogCopy.ofLog d log (s.pathOf log.id)).memory_save d s.mode
    dsimp only
    generalize (LogCopy.ofLog d log (s.pathOf log.id)).save d s.mode = saved at named memory ⊢
    rcases saved with ⟨e | ⟨⟩, copy, d'⟩
    · exact .inl ⟨_, _, rfl⟩
    · exact .inr ⟨copy, d', by simpa using valid, named, memory, rfl⟩

/-- What is kept when one log is put is kept when several are. -/
theorem insertAll_keeps {P : Store → Disk → Prop} {logs : List Log}
    (step : ∀ s d, ∀ log ∈ logs, P s d → P (s.insert d log).2.1 (s.insert d log).2.2)
    (h : P s d) (n : Nat) :
    P (logs.foldl insertNext (n, s, d)).2.1 (logs.foldl insertNext (n, s, d)).2.2 := by
  induction logs generalizing n s d with
  | nil => exact h
  | cons log logs ih =>
    have first := step s d log List.mem_cons_self h
    have others := fun s d other hother => step s d other (List.mem_cons_of_mem log hother)
    rw [List.foldl_cons, insertNext]
    generalize s.insert d log = r at first ⊢
    rcases r with ⟨e | l, s₁, d₁⟩
    · exact ih others first n
    · exact ih others first (n + 1)

/-- Memory and list have only logs of these identifiers. -/
structure Only (known : Set LogId) (s : Store) : Prop where
  keys : ∀ e ∈ s.cache.entries, e.1 ∈ known
  memory : ∀ e ∈ s.cache.entries, ∀ log, e.2.memory = some log → log.id = e.1
  listed : ∀ e ∈ s.index.entries, e.1 ∈ known

namespace Only

theorem bare (known : Set LogId) (dir : String) (capacity : Nat) (mode : Option Mode) :
    Only known (bare dir capacity mode) where
  keys := by rintro _ ⟨⟩
  memory := by rintro _ ⟨⟩
  listed := by rintro _ ⟨⟩

theorem get (h : Only known s) (d : Disk) (id : LogId) : Only known (s.get d id).2.1 where
  keys := fun e he => h.keys e (Recency.mem_get he)
  memory := fun e he => h.memory e (Recency.mem_get he)
  listed := h.listed

theorem get_eq_some (h : Only known s) (got : (s.get d id).1 = some log) :
    log.id = id ∧ id ∈ known := by
  obtain ⟨copy, found, memory⟩ := Option.bind_eq_some_iff.mp got
  have mem := Recency.mem_of_get found
  exact ⟨h.memory _ mem log memory, h.keys _ mem⟩

/-- A copy of a known log is brought into memory. -/
theorem cached (h : Only known s) (mem : id ∈ known) {copy : LogCopy}
    (memory : ∀ log, copy.memory = some log → log.id = id) :
    Only known { s with cache := (s.cache.put id copy).2 } where
  keys := by
    intro e he
    rcases Recency.mem_put he with rfl | ⟨old, -⟩
    · exact mem
    · exact h.keys e old
  memory := by
    intro e he
    rcases Recency.mem_put he with rfl | ⟨old, -⟩
    · exact memory
    · exact h.memory e old
  listed := h.listed

/-- A log that is loaded has been put under the identifier that is asked for. -/
theorem load (h : Only known s) (d : Disk) (id : LogId) :
    Only known (s.load d id).2.1 ∧
      ∀ log, (s.load d id).1 = .ok (some log) → log.id = id ∧ id ∈ known := by
  have rest := h.get d id
  have loading := s.loading d id
  generalize s.load d id = r at loading ⊢
  cases loading with
  | resident got =>
    refine ⟨rest, ?_⟩
    rintro _ ⟨⟩
    exact h.get_eq_some got
  | unlisted => exact ⟨rest, by rintro _ ⟨⟩⟩
  | failed => exact ⟨rest, by rintro _ ⟨⟩⟩
  | @read path l _ listed read =>
    -- the list knows the file of the log
    obtain ⟨before, after, split, -⟩ := List.lookup_eq_some_iff.mp listed
    have mem : id ∈ known := rest.listed (id, path) (by
      show _ ∈ s.index.entries
      rw [split]
      simp)
    have same : l.id = id := LogCopy.id_of_readFile read
    refine ⟨rest.cached mem ?_, ?_⟩
    · rintro _ ⟨⟩
      exact same
    · rintro _ ⟨⟩
      exact ⟨same, mem⟩

/-- A log that is inserted is known from then on, and no other log is. -/
theorem insert (h : Only known s) (d : Disk) (mem : log.id ∈ known) :
    Only known (s.insert d log).2.1 := by
  rcases s.insert_cases d log with ⟨e, d', failed⟩ | ⟨copy, d', -, -, memory, done⟩
  · rw [failed]
    exact h
  · have same : ∀ l, copy.memory = some l → l.id = log.id := by
      intro l found
      rw [memory] at found
      rw [← Option.some.inj found]
    have cached := h.cached mem same
    rw [done]
    refine ⟨cached.keys, cached.memory, ?_⟩
    intro e he
    rcases List.mem_cons.mp he with rfl | old
    · exact mem
    · exact h.listed e (StoreIndex.mem_erase.mp old).1

theorem insertAll (h : Only known s) (d : Disk) {logs : List Log}
    (mem : ∀ log ∈ logs, log.id ∈ known) : Only known (s.insertAll d logs).2.1 :=
  insertAll_keeps (P := fun s _ => Only known s)
    (fun _ d log hlog h => h.insert d (mem log hlog)) h 0

end Only

/-- A log that has been written is in memory. -/
theorem get_of_insert {s' : Store} {d' : Disk} {l : Log} (h : s.insert d log = (.ok l, s', d'))
    (disk : Disk) : (s'.get disk log.id).1 = some log := by
  rcases s.insert_cases d log with ⟨e, d₁, failed⟩ | ⟨copy, d₁, -, -, memory, done⟩
  · rw [failed] at h
    cases h
  · rw [done] at h
    cases h
    show ((s.cache.put log.id copy).2.get log.id).1.bind LogCopy.memory = _
    rw [Recency.get_put_self]
    exact memory

/-- A log that has been put is in memory. -/
theorem get_of_put {s' : Store} {d' : Disk} {l : Log} (h : s.put d log = (.ok l, s', d'))
    (disk : Disk) : (s'.get disk log.id).1 = some log := by
  rw [Store.put] at h
  rcases inserted : s.insert d log with ⟨e | back, s₁, d₁⟩
  · rw [inserted] at h
    cases h
  · rw [inserted] at h
    dsimp only at h
    split at h
    · cases h
    · cases h
      exact get_of_insert inserted disk

/-- Writing the list afterwards changes nothing in the store. -/
theorem putAll_store (s : Store) (d : Disk) (logs : List Log) :
    (s.putAll d logs).2.1 = (s.insertAll d logs).2.1 := by
  rw [putAll]
  dsimp only
  split
  · rfl
  · split
    · rfl
    · rfl

end Store

end Scrollback
