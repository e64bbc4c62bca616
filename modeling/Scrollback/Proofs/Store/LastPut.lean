/-
What becomes of a log that has been put.  As long as nothing is put or removed under its identifier,
its file holds what was written, the list has it, and a copy in memory is the log itself or what was
read from the file (`Store.LastPut.kept`).  That is so whatever else is done to the store, however
often it is opened anew, and whether or not the calls of the disk fail: an operation writes and
removes only the list and the files of its own logs.
-/
import Scrollback.Proofs.Store.Origin
import Scrollback.Proofs.Store.Persistent

namespace Scrollback.Store

variable {dir : String} {K : Set (Log × ByteArray)} {x : StoreIndex} {s s' : Store} {d d' : Disk}
  {id : LogId} {log : Log}

/-! ### Where logs are kept -/

/-- The list has no log twice, and each with its file in the directory. -/
structure Placed (dir : String) (x : StoreIndex) : Prop where
  distinct : x.Distinct
  path_eq : ∀ {id path}, x.path? id = some path → path = filePath dir id

/-- On the disk, some logs are in their files and on the list. -/
structure Filed (dir : String) (K : Set (Log × ByteArray)) (d : Disk) : Prop where
  file : ∀ k ∈ K, d.find (filePath dir k.1.id) = .ok (.file k.2)
  listed : ∀ k ∈ K, ∃ bytes x, d.find (listPath dir) = .ok (.file bytes) ∧
    StoreIndex.ofBytes? bytes = some x ∧ x.path? k.1.id = some (filePath dir k.1.id)
  placed : ∀ {bytes x}, d.node? (Path.components (listPath dir)) = some (.file bytes) →
    StoreIndex.ofBytes? bytes = some x → Placed dir x

/-- An entry of the memory is a copy of the file of its identifier; where that is the file of one of
some logs, a log in memory is this one or what its file holds. -/
structure Faithful (dir : String) (K : Set (Log × ByteArray)) (e : LogId × LogCopy) : Prop where
  path_eq : e.2.path = filePath dir e.1
  memory : ∀ k ∈ K, k.1.id = e.1 → ∀ l, e.2.memory = some l → l = k.1 ∨ Codec.decode k.2 = .ok l

/-- A store knows some logs. -/
structure Knows (dir : String) (K : Set (Log × ByteArray)) (s : Store) : Prop where
  dir_eq : s.dir = dir
  placed : Placed dir s.index
  listed : ∀ k ∈ K, s.index.path? k.1.id = some (filePath dir k.1.id)
  copies : ∀ e ∈ s.cache.entries, Faithful dir K e

namespace Placed

theorem empty (dir : String) : Placed dir .empty where
  distinct := StoreIndex.distinct_empty
  path_eq := by rintro _ _ ⟨⟩

theorem insert (h : Placed dir x) (id : LogId) : Placed dir (x.insert id (filePath dir id)) where
  distinct := h.distinct.insert _ _
  path_eq := by
    intro other path found
    by_cases same : other = id
    · subst same
      rw [StoreIndex.path?_insert_self] at found
      exact (Option.some.inj found).symm
    · rw [StoreIndex.path?_insert_of_ne _ _ same] at found
      exact h.path_eq found

theorem erase (h : Placed dir x) (id : LogId) : Placed dir (x.erase id) where
  distinct := h.distinct.erase id
  path_eq := by
    intro other path found
    by_cases same : other = id
    · subst same
      rw [StoreIndex.path?_erase_self] at found
      cases found
    · rw [StoreIndex.path?_erase_of_ne _ same] at found
      exact h.path_eq found

end Placed

/-! ### What leaves them there -/

namespace Filed

/-- The files of other logs may change. -/
theorem spared (h : Filed dir K d) (others : ∀ k ∈ K, k.1.id ≠ id)
    (spared : d.Spares d' (filePath dir id)) : Filed dir K d' where
  file := fun k hk => spared.find (filePath_ne (others k hk)) (h.file k hk)
  listed := by
    intro k hk
    obtain ⟨bytes, x, found, rest⟩ := h.listed k hk
    exact ⟨bytes, x, spared.find (filePath_ne_listPath dir id).symm found, rest⟩
  placed := fun node => h.placed ((spared.file_iff (filePath_ne_listPath dir id).symm).mp node)

theorem grown (h : Filed dir K d) (grown : d.Grown d') : Filed dir K d' where
  file := fun k hk => grown.find (h.file k hk)
  listed := by
    intro k hk
    obtain ⟨bytes, x, found, rest⟩ := h.listed k hk
    exact ⟨bytes, x, grown.find found, rest⟩
  placed := fun node => h.placed (grown.file_iff.mp node)

end Filed

namespace Knows

/-- The memory may be rearranged, drop entries, and take up copies. -/
theorem withCache (h : Knows dir K s) {cache : Recency LogId LogCopy}
    (sub : ∀ e ∈ cache.entries, e ∈ s.cache.entries ∨ Faithful dir K e) :
    Knows dir K { s with cache := cache } where
  dir_eq := h.dir_eq
  placed := h.placed
  listed := h.listed
  copies := fun e he => (sub e he).elim (h.copies e) fun faithful => faithful

theorem get (h : Knows dir K s) (d : Disk) (id : LogId) : Knows dir K (s.get d id).2.1 :=
  h.withCache fun _ he => .inl (Recency.mem_get he)

theorem resize (h : Knows dir K s) (capacity : Nat) : Knows dir K (s.resize capacity) :=
  h.withCache fun _ he => .inl (Recency.mem_resize he)

end Knows

/-! ### The list -/

/-- Where the list has been written, the logs that the store knows are on it. -/
theorem Knows.filed_of_saveIndex (h : Knows dir K s)
    (file : ∀ k ∈ K, d.find (filePath dir k.1.id) = .ok (.file k.2))
    (written : s.saveIndex d = (.ok (), d')) : Filed dir K d' := by
  rw [Store.saveIndex, indexPath_eq h.dir_eq] at written
  rcases list : d.write (listPath dir) s.index.toBytes with e | d₁
  · rw [list] at written
    cases written
  · rw [list] at written
    cases written
    have wrote := Disk.wrote list
    obtain ⟨x, read, distinct, paths⟩ := StoreIndex.exists_ofBytes?_toBytes h.placed.distinct
    refine ⟨fun k hk => wrote.others (filePath_ne_listPath dir _) (file k hk), fun k hk => ?_, ?_⟩
    · exact ⟨_, x, wrote.written, read, (paths _).trans (h.listed k hk)⟩
    · -- no other list lies there
      intro bytes y node read'
      obtain ⟨-, node'⟩ := Disk.find_eq_ok.mp wrote.written
      rw [node'] at node
      cases node
      obtain rfl := Option.some.inj (read.symm.trans read')
      exact ⟨distinct, fun found => h.placed.path_eq ((paths _).symm.trans found)⟩

theorem Knows.filed_saveIndex (h : Knows dir K s) (filed : Filed dir K d) :
    Filed dir K (s.saveIndex d).2 := by
  rcases answer : s.saveIndex d with ⟨e | ⟨⟩, d'⟩
  · -- the list that was there before is there still
    have same : d' = d := by
      rw [Store.saveIndex] at answer
      split at answer
      · cases answer
      · cases answer
        rfl
    rwa [same]
  · exact h.filed_of_saveIndex filed.file answer

theorem Knows.filed_finish {α : Type} (h : Knows dir K s) (filed : Filed dir K d) (answer : α) :
    Knows dir K (s.finish d answer).2.1 ∧ Filed dir K (s.finish d answer).2.2 := by
  have after := h.filed_saveIndex filed
  rw [finish]
  generalize s.saveIndex d = r at after ⊢
  rcases r with ⟨e | ⟨⟩, d'⟩
  · exact ⟨h, after⟩
  · exact ⟨h, after⟩

/-- A list that is read has the logs that are on the disk. -/
theorem Filed.knows_of_loadIndex (filed : Filed dir K d) (dir_eq : s.dir = dir)
    (copies : ∀ e ∈ s.cache.entries, Faithful dir K e) (read : (s.loadIndex d).1 = .ok ()) :
    Knows dir K (s.loadIndex d).2.1 := by
  have relisting := s.relisting d
  generalize s.loadIndex d = r at read relisting ⊢
  cases relisting with
  | unread => cases read
  | malformed => cases read
  | missing missing =>
    refine ⟨dir_eq, .empty dir, fun k hk => ?_, copies⟩
    -- a list that is missing has no log at all
    obtain ⟨bytes, -, found, -⟩ := filed.listed k hk
    rw [indexPath_eq dir_eq, Disk.read, found] at missing
    cases missing
  | parsed found parsed =>
    rw [indexPath_eq dir_eq] at found
    have found := Disk.find_of_read found
    refine ⟨dir_eq, filed.placed (Disk.find_eq_ok.mp found).2 parsed, fun k hk => ?_, copies⟩
    obtain ⟨bytes', x', found', parsed', listed⟩ := filed.listed k hk
    rw [found] at found'
    cases found'
    rw [parsed] at parsed'
    cases parsed'
    exact listed

theorem Filed.openAt (filed : Filed dir K d) (capacity : Nat) :
    Filed dir K (Store.openAt d dir capacity).2 ∧
      ∀ s', (Store.openAt d dir capacity).1 = .ok s' → Knows dir K s' := by
  have after := filed.grown (d.grown_makeDirectories dir)
  refine ⟨disk_openAt d dir capacity ▸ after, fun s' opened => ?_⟩
  obtain ⟨d', made, loaded⟩ := exists_loadIndex_of_openAt opened
  rw [made] at after
  have knows := @Filed.knows_of_loadIndex dir K (bare dir capacity none) d' after rfl
    (by rintro _ ⟨⟩) (congrArg Prod.fst loaded)
  rwa [loaded] at knows

/-! ### Reading and writing -/

/-- A log that is loaded from a file is what the file holds. -/
theorem Knows.load (h : Knows dir K s) (filed : Filed dir K d) (id : LogId) :
    Knows dir K (s.load d id).2.1 := by
  have knows := h.get d id
  have loading := s.loading d id
  generalize s.load d id = r at loading ⊢
  cases loading with
  | resident => exact knows
  | unlisted => exact knows
  | failed => exact knows
  | @read path l _ listed read =>
    obtain rfl := h.placed.path_eq listed
    obtain ⟨bytes, held, decoded, -⟩ := LogCopy.readFile_eq_ok.mp read
    refine knows.withCache fun e he => ?_
    rcases Recency.mem_put he with rfl | ⟨old, -⟩
    · refine .inr ⟨rfl, ?_⟩
      rintro k hk same _ ⟨⟩
      have file := filed.file k hk
      rw [same] at file
      cases held.symm.trans file
      exact .inr decoded
    · exact .inl old

/-- A log of another identifier comes into its file, the list and the memory, or it does not. -/
theorem Knows.insert (h : Knows dir K s) (filed : Filed dir K d)
    (others : ∀ k ∈ K, k.1.id ≠ log.id) :
    Knows dir K (s.insert d log).2.1 ∧ Filed dir K (s.insert d log).2.2 := by
  rcases valid : log.valid with - | -
  · rw [insert_of_invalid valid]
    exact ⟨h, filed⟩
  · rw [insert_of_valid h.dir_eq valid]
    have spared := filed.spared others
      ((LogCopy.ofLog d log (filePath dir log.id)).spares_save d s.mode)
    rcases saved : (LogCopy.ofLog d log (filePath dir log.id)).save d s.mode with ⟨e | ⟨⟩, copy, d₁⟩
    · rw [saved] at spared
      exact ⟨h, spared⟩
    · rw [saved] at spared
      obtain ⟨rfl, -⟩ := LogCopy.found_of_save rfl saved
      refine ⟨⟨h.dir_eq, h.placed.insert log.id, fun k hk => ?_, fun e he => ?_⟩, spared⟩
      · rw [StoreIndex.path?_insert_of_ne _ _ (others k hk)]
        exact h.listed k hk
      · rcases Recency.mem_put he with rfl | ⟨old, -⟩
        · exact ⟨rfl, fun k hk same => absurd same (others k hk)⟩
        · exact h.copies e old

/-- A log that has been inserted is known from then on, and is in its file. -/
theorem Knows.of_insert {l : Log} (h : Knows dir K s) (filed : Filed dir K d)
    (others : ∀ k ∈ K, k.1.id ≠ log.id) (done : s.insert d log = (.ok l, s', d')) :
    ∃ out, Codec.encode log (s.mode.getD (Codec.narrowest log)) .native = .ok out ∧
      Knows dir ({(log, out.toByteArray)} ∪ K) s' ∧
      ∀ k ∈ ({(log, out.toByteArray)} : Set (Log × ByteArray)) ∪ K,
        d'.find (filePath dir k.1.id) = .ok (.file k.2) := by
  have before := h.insert filed others
  rcases valid : log.valid with - | -
  · rw [insert_of_invalid valid] at done
    cases done
  · rw [done] at before
    rw [insert_of_valid h.dir_eq valid] at done
    rcases saved : (LogCopy.ofLog d log (filePath dir log.id)).save d s.mode with ⟨e | ⟨⟩, copy, d₁⟩
    · rw [saved] at done
      cases done
    · rw [saved] at done
      cases done
      obtain ⟨knows, filed⟩ := before
      obtain ⟨rfl, out, written, found⟩ := LogCopy.found_of_save rfl saved
      refine ⟨out, written, ⟨knows.dir_eq, knows.placed, ?_, fun e he => ⟨?_, ?_⟩⟩, ?_⟩
      · rintro k (rfl | hk)
        · exact StoreIndex.path?_insert_self ..
        · exact knows.listed k hk
      · exact (knows.copies e he).path_eq
      · rintro k (rfl | hk) same l memory
        · -- the copy of the log has just come in
          rcases Recency.mem_put he with rfl | ⟨-, ne⟩
          · cases memory
            exact .inl rfl
          · exact absurd same.symm ne
        · exact (knows.copies e he).memory k hk same l memory
      · rintro k (rfl | hk)
        · exact found
        · exact filed.file k hk

theorem Knows.put (h : Knows dir K s) (filed : Filed dir K d) (others : ∀ k ∈ K, k.1.id ≠ log.id) :
    Knows dir K (s.put d log).2.1 ∧ Filed dir K (s.put d log).2.2 := by
  have inserted := h.insert filed others
  rw [Store.put]
  generalize s.insert d log = r at inserted ⊢
  rcases r with ⟨e | l, s₁, d₁⟩
  · exact inserted
  · exact inserted.1.filed_finish inserted.2 l

/-- A log that has been put is kept from then on. -/
theorem Knows.of_put (h : Knows dir K s) (filed : Filed dir K d)
    (others : ∀ k ∈ K, k.1.id ≠ log.id) {l : Log} (done : (s.put d log).1 = .ok l) :
    ∃ out, Codec.encode log (s.mode.getD (Codec.narrowest log)) .native = .ok out ∧
      Knows dir ({(log, out.toByteArray)} ∪ K) (s.put d log).2.1 ∧
      Filed dir ({(log, out.toByteArray)} ∪ K) (s.put d log).2.2 := by
  rw [Store.put] at done ⊢
  rcases inserted : s.insert d log with ⟨e | l', s₁, d₁⟩
  · rw [inserted] at done
    cases done
  · rw [inserted] at done
    obtain ⟨out, written, knows, files⟩ := h.of_insert filed others inserted
    dsimp only at done ⊢
    rcases list : s₁.saveIndex d₁ with ⟨e | ⟨⟩, d₂⟩
    · rw [list] at done
      cases done
    · exact ⟨out, written, knows, knows.filed_of_saveIndex files list⟩

theorem Knows.insertAll {logs : List Log} (h : Knows dir K s) (filed : Filed dir K d)
    (others : ∀ k ∈ K, k.1.id ∉ logs.map Log.id) (n : Nat) :
    Knows dir K (logs.foldl insertNext (n, s, d)).2.1 ∧
      Filed dir K (logs.foldl insertNext (n, s, d)).2.2 := by
  refine insertAll_keeps (P := fun s d => Knows dir K s ∧ Filed dir K d) ?_ ⟨h, filed⟩ n
  intro s d log hlog h
  exact h.1.insert h.2 fun k hk same => others k hk (same ▸ List.mem_map_of_mem hlog)

theorem Knows.putAll {logs : List Log} (h : Knows dir K s) (filed : Filed dir K d)
    (others : ∀ k ∈ K, k.1.id ∉ logs.map Log.id) :
    Knows dir K (s.putAll d logs).2.1 ∧ Filed dir K (s.putAll d logs).2.2 := by
  have inserted := h.insertAll filed others 0
  rw [Store.putAll, Store.insertAll]
  generalize logs.foldl insertNext (0, s, d) = r at inserted ⊢
  rcases r with ⟨n, s₁, d₁⟩
  dsimp only
  split
  · exact inserted
  · exact inserted.1.filed_finish inserted.2 n

/-- A log of another identifier is forgotten, and its file is removed, or not. -/
theorem Knows.remove (h : Knows dir K s) (filed : Filed dir K d) (others : ∀ k ∈ K, k.1.id ≠ id) :
    Knows dir K (s.remove d id).2.1 ∧ Filed dir K (s.remove d id).2.2 := by
  have knows : Knows dir K { s with cache := (s.cache.remove id).2 } :=
    h.withCache fun _ he => .inl (Recency.mem_others.mp he).1
  rw [Store.remove]
  dsimp only
  split
  · exact ⟨knows, filed⟩
  · next path found =>
    obtain rfl := h.placed.path_eq found
    -- the copy whose file is removed, whether it was in memory or not
    have copy_path : ((s.cache.remove id).1.getD (LogCopy.ofFile d id (filePath dir id))).path =
        filePath dir id := by
      rcases resident : s.cache.peek? id with - | copy
      · simp only [Recency.remove, resident]
        rfl
      · simp only [Recency.remove, resident]
        exact (h.copies _ (Recency.mem_of_peek? resident)).path_eq
    have spared :=
      ((s.cache.remove id).1.getD (LogCopy.ofFile d id (filePath dir id))).spares_dropFile d
    rw [copy_path] at spared
    have unlisted : Knows dir K { s with
        cache := (s.cache.remove id).2
        index := s.index.erase id } := by
      refine ⟨h.dir_eq, h.placed.erase id, fun k hk => ?_, knows.copies⟩
      rw [StoreIndex.path?_erase_of_ne _ (others k hk)]
      exact h.listed k hk
    generalize ((s.cache.remove id).1.getD (LogCopy.ofFile d id (filePath dir id))).dropFile d = r
      at spared ⊢
    rcases r with ⟨e | ⟨⟩, copy, d₁⟩
    · exact ⟨unlisted, filed.spared others spared⟩
    · exact unlisted.filed_finish (filed.spared others spared) true

/-! ### Every operation -/

/-- The identifiers under which something is put or removed. -/
def Op.touched : Op → List LogId
  | put log => [log.id]
  | putAll logs => logs.map Log.id
  | remove id => [id]
  | _ => []

/-- What is not touched is kept, whatever comes of the operation. -/
theorem Knows.run (h : Knows dir K s) (filed : Filed dir K d) {op : Op}
    (others : ∀ k ∈ K, k.1.id ∉ op.touched) :
    Knows dir K (op.run s d).1 ∧ Filed dir K (op.run s d).2 := by
  cases op with
  | put log => exact h.put filed fun k hk => List.ne_of_not_mem_cons (others k hk)
  | putAll logs => exact h.putAll filed others
  | get id => exact ⟨h.get d id, filed⟩
  | load id =>
    rw [Op.run_load]
    exact ⟨h.load filed id, filed⟩
  | remove id => exact h.remove filed fun k hk => List.ne_of_not_mem_cons (others k hk)
  | contains id => exact ⟨h, filed⟩
  | resize capacity => exact ⟨h.resize capacity, filed⟩
  | saveIndex => exact ⟨h, h.filed_saveIndex filed⟩
  | loadIndex =>
    rw [Op.run_loadIndex]
    rcases read : (s.loadIndex d).1 with e | ⟨⟩
    · rw [loadIndex_of_error read]
      exact ⟨h, filed⟩
    · exact ⟨filed.knows_of_loadIndex h.dir_eq h.copies read, filed⟩
  | reopen capacity =>
    obtain ⟨after, opened⟩ := filed.openAt capacity
    rw [← h.dir_eq] at after opened
    refine ⟨?_, h.dir_eq ▸ after⟩
    show Knows dir K ((Store.openAt d s.dir capacity).1.toOption.getD s)
    rcases answer : (Store.openAt d s.dir capacity).1 with e | s₁
    · exact h
    · exact h.dir_eq ▸ opened s₁ answer

/-! ### Logs that were put last -/

/-- A store that was opened on a directory without a list, a mode set or not, and the disk with it,
after operations. -/
inductive Founded : Store → Disk → Prop
  | opened {d₀ d : Disk} {dir : String} {capacity : Nat} {s : Store}
    (unlisted : ∀ bytes, d₀.node? (Path.components (listPath dir)) ≠ some (.file bytes))
    (h : openAt d₀ dir capacity = (.ok s, d)) (mode : Option Mode) :
    Founded { s with mode := mode } d
  | run {s : Store} {d : Disk} (h : Founded s d) (op : Op) :
    Founded (op.run s d).1 (op.run s d).2

/-- A log has been put, and since then nothing has been put or removed under its identifier. -/
inductive LastPut (log : Log) : Store → Disk → Prop
  | put {s : Store} {d : Disk} (h : Founded s d) (done : (s.put d log).1 = .ok log) :
    LastPut log (s.put d log).2.1 (s.put d log).2.2
  | run {s : Store} {d : Disk} (h : LastPut log s d) (op : Op) (other : log.id ∉ op.touched) :
    LastPut log (op.run s d).1 (op.run s d).2

theorem Founded.knows (h : Founded s d) : ∃ dir, Knows dir ∅ s ∧ Filed dir ∅ d := by
  induction h with
  | @opened d₀ d dir capacity s unlisted h mode =>
    have none : Filed dir ∅ d₀ :=
      ⟨by rintro _ ⟨⟩, by rintro _ ⟨⟩, fun node => absurd node (unlisted _)⟩
    obtain ⟨filed, knows⟩ := none.openAt capacity
    rw [h] at filed knows
    obtain ⟨dir_eq, placed, listed, copies⟩ := knows s rfl
    exact ⟨dir, ⟨dir_eq, placed, listed, copies⟩, filed⟩
  | run h op ih =>
    obtain ⟨dir, knows, filed⟩ := ih
    exact ⟨dir, knows.run filed (by rintro _ ⟨⟩)⟩

/-- A log that was put last is kept, as it was written then. -/
theorem LastPut.kept (h : LastPut log s d) :
    ∃ dir m out, Codec.encode log m .native = .ok out ∧
      Knows dir {(log, out.toByteArray)} s ∧ Filed dir {(log, out.toByteArray)} d := by
  induction h with
  | put h done =>
    obtain ⟨dir, knows, filed⟩ := h.knows
    obtain ⟨out, written, knows, filed⟩ := knows.of_put filed (by rintro _ ⟨⟩) done
    rw [Set.union_empty] at knows filed
    exact ⟨dir, _, out, written, knows, filed⟩
  | run h op other ih =>
    obtain ⟨dir, m, out, written, knows, filed⟩ := ih
    refine ⟨dir, m, out, written, knows.run filed ?_⟩
    rintro _ rfl
    exact other

/-- A log that was put last is loaded, as it was or as it is read back, if the calendar has all its
times; otherwise it cannot be loaded once it is no longer in memory. -/
theorem LastPut.load (h : LastPut log s d) (obtained : log.Obtained) :
    ((∀ l ∈ log.lines, l.time.Representable) →
      ∃ l, (s.load d log.id).1 = .ok (some l) ∧ SameLog log l ∧
        ((s.get d log.id).1 = none → log.ReadBack l)) ∧
    ((∃ l ∈ log.lines, ¬l.time.Representable) → (s.get d log.id).1 = none →
      ∃ path millis, (s.load d log.id).1 = .error (.codec path (.time (.outOfRange millis)))) := by
  obtain ⟨dir, m, out, written, knows, filed⟩ := h.kept
  have storable := obtained.storable
  have file := filed.file _ rfl
  have listed := knows.listed _ rfl
  constructor
  · intro times
    obtain ⟨back, read, same⟩ := Codec.decode_of_representable storable written times
    rcases got : (s.get d log.id).1 with - | l
    · have fromFile := (LogCopy.readFile_eq_ok
        (c := LogCopy.ofFile d log.id (filePath dir log.id))).mpr ⟨_, file, read, same.id⟩
      refine ⟨back, ?_, .inr same, fun _ => same⟩
      rw [load_of_absent d got listed, fromFile]
      rfl
    · refine ⟨l, load_of_get d got, ?_, by rintro ⟨⟩⟩
      obtain ⟨copy, found, memory⟩ := Option.bind_eq_some_iff.mp got
      rcases (knows.copies _ (Recency.mem_of_get found)).memory _ rfl rfl l memory with
        rfl | decoded
      · exact .inl rfl
      · rw [read] at decoded
        cases decoded
        exact .inr same
  · intro times absent
    obtain ⟨l, -, -, refused⟩ := Codec.decode_of_not_representable storable written times
    have failed := LogCopy.readFile_of_refused
      (c := LogCopy.ofFile d log.id (filePath dir log.id)) file refused
    refine ⟨filePath dir log.id, l.time.epochMillis, ?_⟩
    rw [load_of_absent d absent listed, failed]
    rfl

end Scrollback.Store
