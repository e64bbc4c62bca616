/-
What each operation of a store does to the logs that are held.  Every one of them keeps the memory,
the list, the files and the file of the list in agreement (`Store.Sound`, `Store.Saved`) as long as
no call of the disk fails (`Store.Calm`), and answers by the logs that are held.
-/
import Scrollback.Proofs.Recency.Basic
import Scrollback.Proofs.Store.Copy
import Scrollback.Proofs.Store.Origin
import Scrollback.Proofs.Store.Sound

namespace Scrollback

/-- The failure is one of a call of the disk. -/
def StoreError.OfDisk : StoreError → Prop
  | .disk _ _ => True
  | .codec _ (.disk _) => True
  | _ => False

namespace Store

variable {dir : String} {m : Holdings} {s : Store} {d d' : Disk} {id : LogId} {log : Log}

/-! ### Failures of the disk -/

/-- No call of the disk has failed. -/
def Calm {α : Type} (answer : Except StoreError α) : Prop :=
  ∀ e, answer = .error e → ¬e.OfDisk

theorem not_calm {α : Type} {path : String} {e : DiskError} {answer : Except StoreError α}
    (h : answer = .error (.disk path e)) : ¬Calm answer :=
  fun calm => calm _ h trivial

theorem calm_of_ok {α : Type} {a : α} {answer : Except StoreError α} (h : answer = .ok a) :
    Calm answer := by
  intro e failed
  rw [h] at failed
  cases failed

/-- A call within an operation that passes on its failures does not fail if the operation does
not. -/
theorem Calm.of_failures {α β : Type} {answer : Except StoreError α} {inner : Except StoreError β}
    (calm : Calm answer) (h : ∀ e, inner = .error e → answer = .error e) : Calm inner :=
  fun e failed => calm e (h e failed)

theorem Calm.map {α β : Type} {answer : Except StoreError α} (calm : Calm answer) (f : α → β) :
    Calm (answer.map f) := by
  intro e failed
  rcases answer with cause | a
  · cases failed
    exact calm _ rfl
  · cases failed

/-! ### The list -/

theorem indexPath_eq (h : s.dir = dir) : s.indexPath = listPath dir := by
  rw [← h]
  rfl

theorem pathOf_eq (h : s.dir = dir) (id : LogId) : s.pathOf id = filePath dir id := by
  rw [← h]
  rfl

/-- The list is brought up to date, if the disk does not fail. -/
theorem Sound.saveIndex (h : Sound dir m s d) (calm : Calm (s.saveIndex d).1) :
    (s.saveIndex d).1 = .ok () ∧ Sound dir m s (s.saveIndex d).2 ∧
      Saved dir m (s.saveIndex d).2 := by
  rcases written : d.write s.indexPath s.index.toBytes with e | d'
  · refine absurd calm (@not_calm _ s.indexPath e _ ?_)
    rw [Store.saveIndex, written]
  · have answer : s.saveIndex d = (.ok (), d') := by
      rw [Store.saveIndex, written]
    have wrote := Disk.wrote written
    rw [indexPath_eq h.dir_eq] at wrote
    obtain ⟨x, read, distinct, paths⟩ := StoreIndex.exists_ofBytes?_toBytes h.listed.distinct
    rw [answer]
    refine ⟨rfl, { h with files := h.files.wroteList wrote }, .inr ?_⟩
    exact ⟨_, x, wrote.written, read, distinct, fun id => (paths id).trans (h.listed.path_eq id)⟩

/-- The list is written where its file can be. -/
theorem saveIndex_of_reaches (dir_eq : s.dir = dir) (reaches : d.Reaches (listPath dir))
    (free : d.node? (Path.components (listPath dir)) ≠ some .directory) :
    ∃ d', d.write (listPath dir) s.index.toBytes = .ok d' ∧ s.saveIndex d = (.ok (), d') := by
  have written := Disk.write_eq_ok.mpr ⟨reaches, free, @rfl _ (d.setNode _ (.file s.index.toBytes))⟩
  refine ⟨_, written, ?_⟩
  rw [Store.saveIndex, indexPath_eq dir_eq, written]

/-- Where the list is on the disk it can be written. -/
theorem calm_saveIndex {bytes : ByteArray} (dir_eq : s.dir = dir)
    (found : d.find (listPath dir) = .ok (.file bytes)) : Calm (s.saveIndex d).1 := by
  obtain ⟨reaches, node⟩ := Disk.find_eq_ok.mp found
  obtain ⟨d', -, answer⟩ := saveIndex_of_reaches dir_eq reaches (by simp [node])
  exact calm_of_ok (congrArg Prod.fst answer)

/-- The answer of an operation that ends with writing the list. -/
def finish {α : Type} (s : Store) (d : Disk) (answer : α) : Except StoreError α × Store × Disk :=
  match s.saveIndex d with
  | (.error e, d) => (.error e, s, d)
  | (.ok (), d) => (.ok answer, s, d)

theorem calm_finish {α : Type} {answer : α} :
    Calm (s.finish d answer).1 ↔ Calm (s.saveIndex d).1 := by
  rw [finish]
  rcases s.saveIndex d with ⟨e | ⟨⟩, d'⟩
  · constructor
    · intro calm
      exact calm.of_failures fun _ failed => congrArg Except.error (Except.error.inj failed)
    · intro calm
      exact calm.of_failures fun _ failed => congrArg Except.error (Except.error.inj failed)
  · exact ⟨fun _ => calm_of_ok rfl, fun _ => calm_of_ok rfl⟩

theorem Sound.finish {α : Type} {answer : α} (h : Sound dir m s d)
    (calm : Calm (s.finish d answer).1) :
    (s.finish d answer).1 = .ok answer ∧
      Sound dir m (s.finish d answer).2.1 (s.finish d answer).2.2 ∧
      Saved dir m (s.finish d answer).2.2 := by
  obtain ⟨ok, sound, saved⟩ := h.saveIndex (calm_finish.mp calm)
  rw [Store.finish]
  rcases list : s.saveIndex d with ⟨r, d'⟩
  rw [list] at ok sound saved
  obtain rfl : r = .ok () := ok
  exact ⟨rfl, sound, saved⟩

/-- A list that is missing is an empty one. -/
theorem loadIndex_of_missing (dir_eq : s.dir = dir)
    (missing : d.find (listPath dir) = .error .notFound) :
    s.loadIndex d = (.ok (), { s with index := .empty }, d) := by
  have answer : d.read (listPath dir) = .error .notFound := by
    rw [Disk.read, missing]
    rfl
  rw [Store.loadIndex, indexPath_eq dir_eq, answer]

/-- A list that is there is the list. -/
theorem loadIndex_of_find {bytes : ByteArray} {x : StoreIndex} (dir_eq : s.dir = dir)
    (found : d.find (listPath dir) = .ok (.file bytes))
    (read : StoreIndex.ofBytes? bytes = some x) :
    s.loadIndex d = (.ok (), { s with index := x }, d) := by
  have answer : d.read (listPath dir) = .ok bytes := by
    rw [Disk.read, found]
    rfl
  rw [Store.loadIndex, indexPath_eq dir_eq, answer]
  dsimp only
  rw [read]

/-- The list that is read agrees with the files. -/
theorem Saved.loadIndex (h : Saved dir m d) (dir_eq : s.dir = dir)
    (calm : Calm (s.loadIndex d).1) :
    ∃ x, s.loadIndex d = (.ok (), { s with index := x }, d) ∧ Listed dir m x := by
  rcases h with ⟨nothing, missing⟩ | ⟨bytes, x, found, read, listed⟩
  · -- nothing is held, and there may be no list yet
    rcases answer : d.find (listPath dir) with e | node
    · rcases eq_or_ne e .notFound with rfl | ne
      · refine ⟨.empty, loadIndex_of_missing dir_eq answer, StoreIndex.distinct_empty, fun id => ?_⟩
        rw [nothing id]
        rfl
      · -- any other failure would have been one of the disk
        refine absurd calm (@not_calm _ (listPath dir) e _ ?_)
        have failed : d.read (listPath dir) = .error e := by
          rw [Disk.read, answer]
          rfl
        rw [Store.loadIndex, indexPath_eq dir_eq, failed]
        cases e with
        | notFound => exact absurd rfl ne
        | _ => rfl
    · obtain ⟨-, there⟩ := Disk.find_eq_ok.mp answer
      cases node with
      | file bytes => exact absurd there (missing bytes)
      | directory =>
        refine absurd calm (@not_calm _ (listPath dir) .isDirectory _ ?_)
        have failed : d.read (listPath dir) = .error .isDirectory := by
          rw [Disk.read, answer]
          rfl
        rw [Store.loadIndex, indexPath_eq dir_eq, failed]
  · exact ⟨x, loadIndex_of_find dir_eq found read, listed⟩

/-- Where something is held the list is there and can be read. -/
theorem Saved.calm_loadIndex (h : Saved dir m d) (dir_eq : s.dir = dir) (held : m id = some log) :
    Calm (s.loadIndex d).1 := by
  rcases h with ⟨nothing, -⟩ | ⟨bytes, x, found, read, -⟩
  · rw [nothing id] at held
    cases held
  · exact calm_of_ok (congrArg Prod.fst (loadIndex_of_find dir_eq found read))

/-! ### Looking up -/

/-- The memory may be rearranged and drop entries. -/
theorem Sound.withCache (h : Sound dir m s d) {cache : Recency LogId LogCopy}
    (sub : ∀ e ∈ cache.entries, e ∈ s.cache.entries ∨ IsCopy dir m e) :
    Sound dir m { s with cache := cache } d where
  dir_eq := h.dir_eq
  mode_eq := h.mode_eq
  listed := h.listed
  copies := fun e he => (sub e he).elim (h.copies e) id
  files := h.files

theorem Sound.get (h : Sound dir m s d) (id : LogId) : Sound dir m (s.get d id).2.1 d :=
  h.withCache fun _ he => .inl (Recency.mem_get he)

theorem Sound.resize (h : Sound dir m s d) (capacity : Nat) : Sound dir m (s.resize capacity) d :=
  h.withCache fun _ he => .inl (Recency.mem_resize he)

/-- What is in memory is held. -/
theorem Sound.get_eq_some (h : Sound dir m s d) {l : Log} (got : (s.get d id).1 = some l) :
    ∃ log, m id = some log ∧ SameLog log l := by
  obtain ⟨copy, found, memory⟩ := Option.bind_eq_some_iff.mp got
  obtain ⟨log, l', held, memory', same⟩ := (h.copies _ (Recency.mem_of_get found)).memory
  obtain rfl : l = l' := Option.some.inj (memory.symm.trans memory')
  exact ⟨log, held, same⟩

/-- The store has just the logs that are held. -/
theorem Sound.contains_eq (h : Sound dir m s d) (id : LogId) :
    (s.contains d id).1 = (m id).isSome := by
  rw [Store.contains_eq, h.listed.path_eq, Option.isSome_map, Bool.or_eq_right_iff_imp]
  intro resident
  obtain ⟨e, he, rfl⟩ := List.mem_map.mp (Recency.contains_eq_true.mp resident)
  obtain ⟨log, -, held, -⟩ := (h.copies e he).memory
  rw [held]
  rfl

/-- A log that is held is given back, and no other; the store is left as it should be. -/
theorem Sound.load (h : Sound dir m s d) (id : LogId) :
    (m id = none → (s.load d id).1 = .ok none) ∧
    (∀ log, m id = some log → ∃ l, (s.load d id).1 = .ok (some l) ∧ SameLog log l) ∧
      Sound dir m (s.load d id).2.1 d := by
  have sound := h.get id
  have path := h.listed.path_eq id
  -- the file of a log that is held can be read
  have reads : ∀ log, m id = some log → ∃ back,
      (LogCopy.ofFile d id (filePath dir id)).readFile d = .ok back ∧ log.ReadBack back := by
    intro log held
    obtain ⟨bytes, back, found, read, same⟩ := h.files.stored held
    exact ⟨back, LogCopy.readFile_eq_ok.mpr
      ⟨bytes, found, read, same.id.trans (h.files.id_eq held)⟩, same⟩
  have loading := s.loading d id
  generalize s.load d id = r at loading ⊢
  rcases held : m id with - | log
  · rw [held, Option.map_none] at path
    cases loading with
    | resident got =>
      obtain ⟨log, held', -⟩ := h.get_eq_some got
      cases held.symm.trans held'
    | unlisted => exact ⟨fun _ => rfl, (by rintro _ ⟨⟩), sound⟩
    | failed _ listed => cases path.symm.trans listed
    | read _ listed => cases path.symm.trans listed
  · obtain ⟨back, fromFile, same⟩ := reads log held
    rw [held, Option.map_some] at path
    cases loading with
    | resident got =>
      obtain ⟨log', held', same⟩ := h.get_eq_some got
      obtain rfl := Option.some.inj (held.symm.trans held')
      exact ⟨(by rintro ⟨⟩), (by rintro _ ⟨⟩; exact ⟨_, rfl, same⟩), sound⟩
    | unlisted _ listed => cases path.symm.trans listed
    | failed _ listed read =>
      obtain rfl := Option.some.inj (path.symm.trans listed)
      cases fromFile.symm.trans read
    | read _ listed read =>
      obtain rfl := Option.some.inj (path.symm.trans listed)
      obtain rfl := Except.ok.inj (fromFile.symm.trans read)
      refine ⟨(by rintro ⟨⟩), (by rintro _ ⟨⟩; exact ⟨_, rfl, .inr same⟩), ?_⟩
      refine sound.withCache fun e he => ?_
      rcases Recency.mem_put he with rfl | ⟨old, -⟩
      · exact .inr ⟨⟨log, back, held, rfl, .inr same⟩, rfl⟩
      · exact .inl old

/-- Loading does not fail. -/
theorem Sound.calm_load (h : Sound dir m s d) (id : LogId) : Calm (s.load d id).1 := by
  obtain ⟨none, some, -⟩ := h.load id
  rcases held : m id with - | log
  · exact calm_of_ok (none held)
  · obtain ⟨l, loaded, -⟩ := some log held
    exact calm_of_ok loaded

/-! ### Keeping logs -/

/-- The logs that are held when a log has been put: one that is not valid is refused. -/
def hold (m : Holdings) (log : Log) : Holdings :=
  if log.valid then keep m log else m

theorem hold_of_valid (valid : log.valid = true) : hold m log = keep m log :=
  if_pos valid

theorem hold_of_invalid (invalid : log.valid = false) : hold m log = m :=
  if_neg (Bool.eq_false_iff.mp invalid)

theorem insert_of_invalid (invalid : log.valid = false) :
    s.insert d log = (.error (.invalidLog log.id), s, d) := by
  rw [Store.insert, invalid]
  rfl

/-- A valid log is written first, and comes into the list and the memory if that succeeds. -/
theorem insert_of_valid (dir_eq : s.dir = dir) (valid : log.valid = true) :
    s.insert d log =
      match (LogCopy.ofLog d log (filePath dir log.id)).save d s.mode with
      | (.error e, _, d) => (.error e, s, d)
      | (.ok (), copy, d) => (.ok log, { s with
          index := s.index.insert log.id (filePath dir log.id)
          cache := (s.cache.put log.id copy).2 }, d) := by
  rw [Store.insert, valid, pathOf_eq dir_eq]
  rfl

/-- What is written for a log when no mode is set. -/
theorem encode_of_mode {out : List UInt8} (mode_eq : s.mode = none)
    (written : Codec.encode log (Codec.narrowest log) .native = .ok out) :
    Codec.encode log (s.mode.getD (Codec.narrowest log)) .native = .ok out := by
  rw [mode_eq]
  exact written

/-- A valid log is kept, if the disk does not fail. -/
theorem Sound.insert (h : Sound dir m s d) (keepable : log.Keepable) (valid : log.valid = true)
    (calm : Calm (s.insert d log).1) :
    ∃ s' d', s.insert d log = (.ok log, s', d') ∧ Sound dir (keep m log) s' d' := by
  obtain ⟨out, back, written, read, same⟩ := keepable.exists_written valid
  rw [insert_of_valid h.dir_eq valid] at calm ⊢
  rcases @LogCopy.save_cases (LogCopy.ofLog d log (filePath dir log.id)) d log s.mode out rfl
    (encode_of_mode h.mode_eq written) with ⟨d', wrote, saved⟩ | ⟨path, e, d', failed⟩
  · rw [saved]
    refine ⟨_, _, rfl, h.dir_eq, h.mode_eq, h.listed.keep log, ?_, h.files.keep wrote read same⟩
    intro e he
    rcases Recency.mem_put he with rfl | ⟨old, ne⟩
    · exact ⟨⟨log, log, keep_self m log, rfl, .inl rfl⟩, rfl⟩
    · exact (h.copies e old).keep ne
  · rw [failed] at calm
    exact absurd calm (not_calm rfl)

/-- A log that is put is held if it is valid, and the list is brought up to date. -/
theorem Sound.put (h : Sound dir m s d) (saved : Saved dir m d) (keepable : log.Keepable)
    (calm : Calm (s.put d log).1) :
    (s.put d log).1 = (if log.valid then .ok log else .error (.invalidLog log.id)) ∧
      Sound dir (hold m log) (s.put d log).2.1 (s.put d log).2.2 ∧
      Saved dir (hold m log) (s.put d log).2.2 := by
  rcases valid : log.valid with - | -
  · rw [Store.put, insert_of_invalid valid, hold_of_invalid valid]
    exact ⟨rfl, h, saved⟩
  · have inserted : Calm (s.insert d log).1 := by
      refine calm.of_failures fun e failed => ?_
      rcases answer : s.insert d log with ⟨r, s', d'⟩
      rw [answer] at failed
      obtain rfl : r = .error e := failed
      rw [Store.put, answer]
    obtain ⟨s', d', answer, sound⟩ := h.insert keepable valid inserted
    have opened : s.put d log = s'.finish d' log := by
      rw [Store.put, answer]
      rfl
    rw [opened] at calm
    rw [opened, hold_of_valid valid]
    exact sound.finish calm

/-- A log that can be written comes into its file, the list and the memory where the file can be
written. -/
theorem insert_of_reaches {out : List UInt8} (dir_eq : s.dir = dir) (valid : log.valid = true)
    (written : Codec.encode log (s.mode.getD (Codec.narrowest log)) .native = .ok out)
    (made : d.makeDirectories ((Path.parent? (filePath dir log.id)).getD "") = (.ok (), d))
    (reaches : d.Reaches (filePath dir log.id))
    (free : d.node? (Path.components (filePath dir log.id)) ≠ some .directory) :
    ∃ copy d', s.insert d log = (.ok log, { s with
        index := s.index.insert log.id (filePath dir log.id)
        cache := (s.cache.put log.id copy).2 }, d') ∧ d.Keeps d' ∧
      ∀ names, d'.node? names = if names = Path.components (filePath dir log.id)
        then some (.file out.toByteArray) else d.node? names := by
  obtain ⟨d₁, d₂, emptied, filled, saved⟩ :=
    @LogCopy.save_of_reaches (LogCopy.ofLog d log (filePath dir log.id)) d log s.mode out rfl
      written made reaches free
  have answer := @insert_of_valid dir s d log dir_eq valid
  rw [saved] at answer
  refine ⟨_, d₂, answer, (Disk.keeps_write emptied).trans (Disk.keeps_write filled), ?_⟩
  intro names
  rw [Disk.node?_write filled, Disk.node?_write emptied]
  by_cases own : names = Path.components (filePath dir log.id)
  · rw [if_pos own]
    exact if_pos own
  · rw [if_neg own]
    exact (if_neg own).trans (if_neg own)

/-- A log that can be kept is kept where its file and the list can be written. -/
theorem put_of_reaches (dir_eq : s.dir = dir) (mode_eq : s.mode = none) (keepable : log.Keepable)
    (valid : log.valid = true)
    (made : d.makeDirectories ((Path.parent? (filePath dir log.id)).getD "") = (.ok (), d))
    (reaches : d.Reaches (filePath dir log.id))
    (free : d.node? (Path.components (filePath dir log.id)) ≠ some .directory)
    (listReaches : d.Reaches (listPath dir))
    (listFree : d.node? (Path.components (listPath dir)) ≠ some .directory) :
    ∃ s' d', s.put d log = (.ok log, s', d') ∧ d.Keeps d' := by
  obtain ⟨out, -, written, -, -⟩ := keepable.exists_written valid
  obtain ⟨copy, d₁, inserted, kept, nodes⟩ :=
    insert_of_reaches dir_eq valid (encode_of_mode mode_eq written) made reaches free
  -- the list can still be written once the file of the log is there
  have still : d₁.node? (Path.components (listPath dir)) ≠ some .directory := by
    rw [nodes, if_neg (filePath_ne_listPath dir log.id).symm]
    exact listFree
  obtain ⟨d₂, list, answer⟩ := @saveIndex_of_reaches dir { s with
    index := s.index.insert log.id (filePath dir log.id)
    cache := (s.cache.put log.id copy).2 } d₁ dir_eq (listReaches.mono kept) still
  rw [Store.put, inserted]
  dsimp only
  rw [answer]
  exact ⟨_, d₂, rfl, kept.trans (Disk.keeps_write list)⟩

/-- No call of the disk fails while several logs are put, whose failures are passed over. -/
def CalmInserts (s : Store) (d : Disk) : List Log → Prop
  | [] => True
  | log :: logs =>
    Calm (s.insert d log).1 ∧ CalmInserts (s.insert d log).2.1 (s.insert d log).2.2 logs

/-- The valid ones among several logs are kept; where there are none, nothing has changed. -/
theorem Sound.insertAll {logs : List Log} (h : Sound dir m s d)
    (keepable : ∀ log ∈ logs, log.Keepable) (calm : CalmInserts s d logs) (n : Nat) :
    ∃ s' d', logs.foldl insertNext (n, s, d) = (n + logs.countP Log.valid, s', d') ∧
      Sound dir (logs.foldl hold m) s' d' ∧
      (logs.countP Log.valid = 0 → d' = d ∧ logs.foldl hold m = m) := by
  induction logs generalizing m s d n with
  | nil => exact ⟨s, d, rfl, h, fun _ => ⟨rfl, rfl⟩⟩
  | cons log logs ih =>
    obtain ⟨first, others⟩ := calm
    have rest := fun other hother => keepable other (List.mem_cons_of_mem log hother)
    rw [List.foldl_cons, List.foldl_cons]
    rcases valid : log.valid with - | -
    · rw [insert_of_invalid valid] at others
      rw [insertNext, insert_of_invalid valid, hold_of_invalid valid,
        List.countP_cons_of_neg (Bool.eq_false_iff.mp valid)]
      exact ih h rest others n
    · obtain ⟨s₁, d₁, answer, sound⟩ := h.insert (keepable log List.mem_cons_self) valid first
      rw [answer] at others
      rw [insertNext, answer, hold_of_valid valid, List.countP_cons_of_pos valid]
      obtain ⟨s', d', folded, sound, -⟩ := ih sound rest others (n + 1)
      refine ⟨s', d', ?_, sound, fun none => by cases none⟩
      rw [folded, Nat.add_assoc, Nat.add_comm 1]

/-- Of several logs that are put the valid ones are held, and counted. -/
theorem Sound.putAll {logs : List Log} (h : Sound dir m s d) (saved : Saved dir m d)
    (keepable : ∀ log ∈ logs, log.Keepable) (inserts : CalmInserts s d logs)
    (calm : Calm (s.putAll d logs).1) :
    (s.putAll d logs).1 = .ok (logs.countP Log.valid) ∧
      Sound dir (logs.foldl hold m) (s.putAll d logs).2.1 (s.putAll d logs).2.2 ∧
      Saved dir (logs.foldl hold m) (s.putAll d logs).2.2 := by
  obtain ⟨s', d', folded, sound, unchanged⟩ := h.insertAll keepable inserts 0
  rw [Nat.zero_add] at folded
  generalize logs.countP Log.valid = k at folded unchanged ⊢
  have opened : s.putAll d logs = if k = 0 then (.ok 0, s', d') else s'.finish d' k := by
    rw [Store.putAll, Store.insertAll, folded]
    rfl
  rw [opened] at calm ⊢
  by_cases none : k = 0
  · -- no log was valid: the list is not written, and need not be
    obtain ⟨rfl, held⟩ := unchanged none
    rw [if_pos none]
    refine ⟨congrArg Except.ok none.symm, sound, ?_⟩
    rw [held]
    exact saved
  · rw [if_neg none] at calm ⊢
    exact sound.finish calm

/-! ### Forgetting logs -/

/-- A log that is held is forgotten, in all places, and so the answer is whether it was held. -/
theorem Sound.remove (h : Sound dir m s d) (saved : Saved dir m d) (id : LogId) :
    (s.remove d id).1 = .ok (m id).isSome ∧
      Sound dir (forget m id) (s.remove d id).2.1 (s.remove d id).2.2 ∧
      Saved dir (forget m id) (s.remove d id).2.2 := by
  have path := h.listed.path_eq id
  have others : ∀ e ∈ (s.cache.remove id).2.entries, IsCopy dir (forget m id) e := by
    intro e he
    obtain ⟨old, ne⟩ := Recency.mem_others.mp he
    exact (h.copies e old).forget ne
  rcases held : m id with - | log
  · -- nothing is in memory either
    have unknown : s.cache.peek? id = none := by
      rw [Option.eq_none_iff_forall_ne_some]
      intro copy found
      obtain ⟨log, -, held', -⟩ := (h.copies _ (Recency.mem_of_peek? found)).memory
      rw [held] at held'
      cases held'
    have same : forget m id = m := by
      rw [forget, ← held]
      exact Function.update_eq_self id m
    have answer : s.remove d id = (.ok false, { s with cache := (s.cache.remove id).2 }, d) := by
      rw [held] at path
      simp [Store.remove, Recency.remove, unknown, path]
    rw [same] at others ⊢
    rw [answer]
    exact ⟨rfl, h.withCache fun e he => .inr (others e he), saved⟩
  · rw [held, Option.map_some] at path
    obtain ⟨bytes, back, found, -⟩ := h.files.stored held
    -- the copy whose file is dropped, whether it was in memory or not
    have copy_path : ((s.cache.peek? id).getD (LogCopy.ofFile d id (filePath dir id))).path =
        filePath dir id := by
      rcases resident : s.cache.peek? id with - | copy
      · rfl
      · exact (h.copies _ (Recency.mem_of_peek? resident)).path_eq
    rw [← copy_path] at found
    obtain ⟨d', removed, dropped⟩ := LogCopy.exists_dropFile found
    rw [copy_path] at removed
    have answer : s.remove d id = ({ s with
        cache := (s.cache.remove id).2
        index := s.index.erase id } : Store).finish d' true := by
      simp only [Store.remove, Memory.remove_recency, Recency.remove, path, dropped]
      rfl
    have sound : Sound dir (forget m id) { s with
        cache := (s.cache.remove id).2
        index := s.index.erase id } d' :=
      ⟨h.dir_eq, h.mode_eq, h.listed.forget id, others, h.files.forget removed⟩
    rcases saved with ⟨nothing, -⟩ | ⟨list, x, onDisk, -⟩
    · rw [nothing] at held
      cases held
    · -- something is held, so the list is on the disk and can be written again
      have still := Disk.find_remove_of_ne removed (filePath_ne_listPath dir id).symm onDisk
      rw [answer]
      exact sound.finish (calm_finish.mpr (calm_saveIndex h.dir_eq still))

/-! ### Opening -/

/-- A store that is opened holds the logs whose files are there, whatever its capacity. -/
theorem Files.openAt (files : Files dir m d) (saved : Saved dir m d) {capacity : Nat}
    (calm : Calm (Store.openAt d dir capacity).1) :
    ∃ s d', Store.openAt d dir capacity = (.ok s, d') ∧ Sound dir m s d' ∧ Saved dir m d' := by
  have grown := d.grown_makeDirectories dir
  rcases made : d.makeDirectories dir with ⟨e | ⟨⟩, d'⟩
  · refine absurd calm (@not_calm _ dir e _ ?_)
    rw [Store.openAt, made]
  · rw [made] at grown
    rw [openAt_eq made] at calm ⊢
    have loading : Calm ((bare dir capacity none).loadIndex d').1 :=
      calm.of_failures fun e failed => by
        rw [failed]
        rfl
    obtain ⟨x, answer, listed⟩ := (saved.grown grown).loadIndex rfl loading
    rw [answer]
    refine ⟨_, d', rfl, ⟨rfl, rfl, listed, ?_, files.grown grown⟩, saved.grown grown⟩
    intro e he
    cases he

end Store

end Scrollback
