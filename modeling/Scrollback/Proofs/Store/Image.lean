/-
The file of the list is an image of the map from logs to their files.

In memory the list is gone through in an order that depends on how it came about.  It is written in
the order of the paths, component by component, and under one directory no two files are equal in
that order, as their names tell all logs apart (`Store.key_filePath_inj`).  So the bytes depend on
the map alone (`Store.Lists.toBytes_eq`); and as a log is never listed twice, whatever has been done
to a store (`Store.distinct_of_disturbed`), reading the bytes gives the map back and nothing else
(`Store.list_image`).
-/
import Scrollback.Proofs.Disk.Rooted
import Scrollback.Proofs.Store.Looking
import Scrollback.Proofs.Store.Trusted

namespace Scrollback.Store

variable {dir : String} {ids : Finset LogId} {x y : StoreIndex} {s s' : Store} {d d' : Disk}

/-! ### One map, one file -/

/-- The list has some logs, and each with its file in the directory.  In which order it has them is
left open. -/
structure Lists (dir : String) (ids : Finset LogId) (x : StoreIndex) : Prop where
  distinct : x.Distinct
  path_eq : ∀ id, x.path? id = if id ∈ ids then some (filePath dir id) else none

/-- No two files of logs are equal in the order of paths. -/
theorem key_filePath_inj {a b : LogId}
    (h : Path.key (filePath dir a) = Path.key (filePath dir b)) : a = b := by
  have last : ∀ id, (Path.key (filePath dir id)).getLast? = some (3 :: utf8 (fileName id)) := by
    intro id
    refine Path.getLast?_key_join dir (isName_fileName id) fun up => ?_
    -- a step upwards is shorter than what the names of logs end in
    have long := (suffix_fileName id).length_le
    rw [up] at long
    exact absurd long (by decide)
  have same := congrArg List.getLast? h
  rw [last, last] at same
  exact fileName_inj (utf8_inj.mp (List.cons.inj (Option.some.inj same)).2)

namespace Lists

theorem path_of_mem (h : Lists dir ids x) {e : LogId × String} (mem : e ∈ x.entries) :
    e.2 = filePath dir e.1 := by
  have found := (StoreIndex.path?_eq_some h.distinct).mpr mem
  rw [h.path_eq] at found
  split at found
  · exact (Option.some.inj found).symm
  · cases found

/-- The bytes depend on the map alone. -/
theorem toBytes_eq (hx : Lists dir ids x) (hy : Lists dir ids y) : x.toBytes = y.toBytes := by
  have same : ∀ id, y.path? id = x.path? id := fun id => (hy.path_eq id).trans (hx.path_eq id).symm
  have perm := (x.sorted_perm.trans (StoreIndex.perm_of_same hx.distinct hy.distinct same)).trans
    y.sorted_perm.symm
  have sorted : x.sorted = y.sorted := by
    -- the order settles where an entry stands, as entries equal in it are of one log
    refine perm.eq_of_pairwise ?_ x.pairwise_sorted y.pairwise_sorted
    intro a b ha hb ab ba
    have path := hx.path_of_mem (x.sorted_perm.mem_iff.mp ha)
    have path' := hy.path_of_mem (y.sorted_perm.mem_iff.mp hb)
    have keys := List.le_antisymm ab ba
    rw [path, path'] at keys
    have id_eq := key_filePath_inj keys
    exact Prod.ext id_eq (by rw [path, path', id_eq])
  rw [StoreIndex.toBytes, StoreIndex.toBytes, StoreIndex.toJson, StoreIndex.toJson, sorted]

/-- What is read is the map that was written. -/
theorem exists_ofBytes? (h : Lists dir ids x) :
    ∃ y, StoreIndex.ofBytes? x.toBytes = some y ∧ Lists dir ids y := by
  obtain ⟨y, read, distinct, same⟩ := StoreIndex.exists_ofBytes?_toBytes h.distinct
  exact ⟨y, read, distinct, fun id => (same id).trans (h.path_eq id)⟩

/-- One more log is listed. -/
theorem insert (h : Lists dir ids x) (id : LogId) :
    Lists dir (Insert.insert id ids) (x.insert id (filePath dir id)) where
  distinct := h.distinct.insert _ _
  path_eq := by
    intro other
    rcases eq_or_ne other id with rfl | ne
    · rw [StoreIndex.path?_insert_self, if_pos (Finset.mem_insert_self _ _)]
    · rw [StoreIndex.path?_insert_of_ne _ _ ne, h.path_eq]
      simp only [Finset.mem_insert, ne, false_or]

end Lists

theorem lists_empty (dir : String) : Lists dir ∅ .empty :=
  ⟨StoreIndex.distinct_empty, fun _ => rfl⟩

/-- Every finite number of logs can be listed. -/
theorem exists_lists (dir : String) (ids : Finset LogId) : ∃ x, Lists dir ids x := by
  induction ids using Finset.induction_on with
  | empty => exact ⟨.empty, lists_empty dir⟩
  | insert id ids _ ih =>
    obtain ⟨x, h⟩ := ih
    exact ⟨x.insert id (filePath dir id), h.insert id⟩

/-! ### No log is listed twice -/

theorem distinct_insert (h : s.index.Distinct) (d : Disk) (log : Log) :
    (s.insert d log).2.1.index.Distinct := by
  rcases s.insert_cases d log with ⟨e, d', failed⟩ | ⟨copy, d', -, -, -, done⟩
  · rw [failed]
    exact h
  · rw [done]
    exact h.insert log.id (s.pathOf log.id)

theorem distinct_remove (h : s.index.Distinct) (d : Disk) (id : LogId) :
    (s.remove d id).2.1.index.Distinct := by
  rw [Store.remove]
  dsimp only
  split
  · exact h
  · split
    · exact h.erase id
    · split
      · exact h.erase id
      · exact h.erase id

theorem distinct_loadIndex (h : s.index.Distinct) (d : Disk) :
    (s.loadIndex d).2.1.index.Distinct := by
  have relisting := s.relisting d
  generalize s.loadIndex d = r at relisting ⊢
  cases relisting with
  | missing => exact StoreIndex.distinct_empty
  | unread => exact h
  | malformed => exact h
  | parsed _ parsed => exact StoreIndex.distinct_of_ofBytes? parsed

theorem distinct_openAt {capacity : Nat} (opened : (openAt d dir capacity).1 = .ok s) :
    s.index.Distinct := by
  obtain ⟨d', -, loaded⟩ := exists_loadIndex_of_openAt opened
  have distinct := @distinct_loadIndex (bare dir capacity none) StoreIndex.distinct_empty d'
  rwa [loaded] at distinct

/-- No operation lists a log twice, whatever is on the disk and whether it succeeds or not. -/
theorem distinct_run (h : s.index.Distinct) (d : Disk) (op : Op) :
    (op.run s d).1.index.Distinct := by
  cases op with
  | put log =>
    show (s.put d log).2.1.index.Distinct
    rw [put_store]
    exact distinct_insert h d log
  | putAll logs =>
    show (s.putAll d logs).2.1.index.Distinct
    rw [putAll_store]
    exact insertAll_keeps (P := fun s _ => s.index.Distinct)
      (fun _ d log _ h => distinct_insert h d log) h 0
  | get id => exact h
  | load id =>
    show (s.load d id).2.1.index.Distinct
    rw [index_load]
    exact h
  | remove id => exact distinct_remove h d id
  | contains id => exact h
  | resize capacity => exact h
  | saveIndex => exact h
  | loadIndex => exact distinct_loadIndex h d
  | reopen capacity =>
    show ((Store.openAt d s.dir capacity).1.toOption.getD s).index.Distinct
    rcases opened : (Store.openAt d s.dir capacity).1 with e | s₁
    · exact h
    · exact distinct_openAt opened

theorem distinct_of_disturbed (h : Disturbed s d) : s.index.Distinct := by
  -- neither the disk nor the mode has a part in the list
  induction h with
  | opened h => exact distinct_openAt (congrArg Prod.fst h)
  | run _ op _ ih => exact distinct_run ih _ op
  | meddled _ _ ih => exact ih
  | moded _ _ ih => exact ih

/-! ### Writing and reading -/

/-- Where there is a list, its directory need not be made. -/
theorem makeDirectories_of_find {n : Disk.Node} (found : d.find (listPath dir) = .ok n) :
    d.makeDirectories dir = (.ok (), d) := by
  obtain ⟨reaches, -⟩ := Disk.find_eq_ok.mp found
  obtain ⟨-, plain, short, walked⟩ := Disk.reaches_iff.mp reaches
  rw [components_listPath] at walked
  obtain ⟨rest, joined⟩ := Path.exists_join_eq dir isName_list
  rw [listPath, joined] at plain short
  rw [String.toList_append, List.mem_append, not_or] at plain
  rw [String.utf8ByteSize_append] at short
  exact Disk.makeDirectories_of_directory plain.1 ((Nat.le_add_right _ _).trans short)
    (Disk.directory_of_walk walked rfl)

/-- Some bytes are what the list of some logs is written as, and what it is read from. -/
structure IsImage (dir : String) (ids : Finset LogId) (bytes : ByteArray) : Prop where
  /-- However the list is gone through, it is written as these bytes. -/
  written : ∀ x, Lists dir ids x → x.toBytes = bytes
  /-- They are in the file of the list from then on, or the disk fails and nothing has changed. -/
  saved : ∀ (s : Store) (d : Disk), s.dir = dir → Lists dir ids s.index →
    (∃ d', s.saveIndex d = (.ok (), d') ∧ d'.find (listPath dir) = .ok (.file bytes)) ∨
      ∃ e, d.write (listPath dir) bytes = .error e ∧
        s.saveIndex d = (.error (.disk (listPath dir) e), d)
  /-- A store that reads them has the logs, whatever it had before. -/
  loaded : ∀ (s : Store) (d : Disk), s.dir = dir → d.find (listPath dir) = .ok (.file bytes) →
    ∃ y, s.loadIndex d = (.ok (), { s with index := y }, d) ∧ Lists dir ids y
  /-- A store that is opened where they are has the logs. -/
  opened : ∀ (d : Disk) (capacity : Nat), d.find (listPath dir) = .ok (.file bytes) →
    ∃ s, openAt d dir capacity = (.ok s, d) ∧ s.dir = dir ∧ Lists dir ids s.index

theorem Lists.isImage (h : Lists dir ids x) : IsImage dir ids x.toBytes := by
  obtain ⟨y, read, restored⟩ := h.exists_ofBytes?
  refine ⟨fun z listed => listed.toBytes_eq h, fun s d dir_eq listed => ?_,
    fun s d dir_eq found => ⟨y, loadIndex_of_find dir_eq found read, restored⟩,
    fun d capacity found => ?_⟩
  · rw [Store.saveIndex, indexPath_eq dir_eq, listed.toBytes_eq h]
    rcases written : d.write (listPath dir) x.toBytes with e | d'
    · exact .inr ⟨e, rfl, rfl⟩
    · exact .inl ⟨d', rfl, (Disk.wrote written).written⟩
  · have answer := @loadIndex_of_find dir (bare dir capacity none) d _ y rfl found read
    rw [openAt_eq (makeDirectories_of_find found), answer]
    exact ⟨_, rfl, rfl, restored⟩

/-- The file of the list is an image of the map from logs to their files, and each map has one
image.  Whatever has been done to a store: if its list finds some logs, each with its file in a
directory, and no others, it has each of them once.  There are certain bytes for these logs: their
list is written as these, in whatever order it is gone through; and a store that reads them, or is
opened where they are, has just these logs with just these files. -/
theorem list_image (dir : String) (ids : Finset LogId) :
    (∀ s d, Disturbed s d →
      (∀ id, s.index.path? id = if id ∈ ids then some (filePath dir id) else none) →
      Lists dir ids s.index) ∧
    ∃! bytes, IsImage dir ids bytes := by
  refine ⟨fun s d disturbed same => ⟨distinct_of_disturbed disturbed, same⟩, ?_⟩
  obtain ⟨x, listed⟩ := exists_lists dir ids
  exact ⟨x.toBytes, listed.isImage, fun bytes image => (image.written x listed).symm⟩

/-- A store that has kept a log writes it into the list, and one that is opened there lists it. -/
theorem list_image_greeting :
    ∃ s d d' t, Disturbed s d ∧ s.saveIndex d = (.ok (), d') ∧
      openAt d' "logs" 2 = (.ok t, d') ∧ Lists "logs" {greeting.id} s.index ∧
      Lists "logs" {greeting.id} t.index := by
  obtain ⟨d, opened, directory, ⟨list, unlisted⟩, file, free⟩ := exists_emptyLogs
  have valid : greeting.valid = true := by rw [greeting_eq]
  obtain ⟨out, -, written, -, -⟩ := keepable_greeting.exists_written valid
  obtain ⟨copy, d₁, inserted, -, -⟩ := @insert_of_reaches "logs" ⟨"logs", .empty 1, .empty, none⟩
    d greeting out rfl valid (encode_of_mode rfl written) (makeDirectories_greeting directory)
    file (by simp [free])
  obtain ⟨lists, bytes, image, -⟩ := list_image "logs" {greeting.id}
  -- the log has been put; then the disk is exchanged for the one before, with room for the list
  have disturbed := ((Disturbed.opened opened).run (.put greeting) (by
    intro log hlog
    obtain rfl := List.mem_singleton.mp hlog
    exact .inl (.parsed ..))).meddled d
  rw [show (Op.put greeting).run _ d = (put _ d greeting).2 from rfl, put_store, inserted]
    at disturbed
  have listed := lists _ _ disturbed ((lists_empty "logs").insert greeting.id).path_eq
  rcases image.saved _ d rfl listed with ⟨d', saved, found⟩ | ⟨e, failed, -⟩
  · obtain ⟨t, reopened, -, listed'⟩ := image.opened d' 2 found
    exact ⟨_, d, d', t, disturbed, saved, reopened, listed, listed'⟩
  · rw [Disk.write_eq_ok.mpr ⟨list, by simp [unlisted], rfl⟩] at failed
    cases failed

end Scrollback.Store
