/-
Logs that cannot be removed.  Memory and list forget a log before its file is removed and before the
list is written, and neither is made good if that fails.  So a log is always forgotten, whether or
not removing it succeeds (`Store.forgotten_of_error`): the store no longer has it and says so when it
is removed again, although its file may be there, and the list on the disk may still have it.
-/
import Scrollback.Proofs.Store.Looking

namespace Scrollback.Store

variable {s s' : Store} {d d' : Disk} {id : LogId} {e : StoreError}

/-- The store without a log, in memory and in the list. -/
def without (s : Store) (id : LogId) : Store :=
  { s with cache := (s.cache.remove id).2, index := s.index.erase id }

/-- The file that is removed for a log: that of its copy in memory, or else the one in the list. -/
def fileOf (s : Store) (id : LogId) (path : String) : String :=
  ((s.cache.peek? id).map LogCopy.path).getD path

/-- What can come of removing a log. -/
inductive Removing (s : Store) (d : Disk) (id : LogId) :
    Except StoreError Bool × Store × Disk → Prop
  /-- The list does not have the log. -/
  | unlisted (listed : s.index.path? id = none) :
    Removing s d id (.ok (s.cache.peek? id).isSome, { s with cache := (s.cache.remove id).2 }, d)
  /-- The file cannot be removed. -/
  | stuck {path : String} {cause : DiskError} (listed : s.index.path? id = some path)
    (removed : d.remove (s.fileOf id path) = .error cause) (there : cause ≠ .notFound) :
    Removing s d id (.error (.disk (s.fileOf id path) cause), s.without id, d)
  /-- The list cannot be written. -/
  | unsaved {path : String} {cause : DiskError} {d₁ : Disk} (listed : s.index.path? id = some path)
    (dropped : d.Dropped d₁ (s.fileOf id path))
    (written : d₁.write s.indexPath (s.index.erase id).toBytes = .error cause) :
    Removing s d id (.error (.disk s.indexPath cause), s.without id, d₁)
  | removed {path : String} {d₁ d₂ : Disk} (listed : s.index.path? id = some path)
    (dropped : d.Dropped d₁ (s.fileOf id path))
    (written : d₁.write s.indexPath (s.index.erase id).toBytes = .ok d₂) :
    Removing s d id (.ok true, s.without id, d₂)

theorem removing (s : Store) (d : Disk) (id : LogId) : Removing s d id (s.remove d id) := by
  rw [remove, Memory.remove_recency, Recency.remove]
  dsimp only
  rcases listed : s.index.path? id with - | path
  · exact .unlisted listed
  · have file : ((s.cache.peek? id).getD (LogCopy.ofFile d id path)).path = s.fileOf id path := by
      rw [fileOf]
      rcases s.cache.peek? id with - | copy
      · rfl
      · rfl
    dsimp only
    rw [LogCopy.dropFile, file]
    -- the list is written once the file is gone
    have saves : ∀ d₁, d.Dropped d₁ (s.fileOf id path) →
        Removing s d id ((s.without id).finish d₁ true) := by
      intro d₁ dropped
      rw [finish, saveIndex]
      rcases written : d₁.write (s.without id).indexPath (s.without id).index.toBytes
        with cause | d₂
      · exact .unsaved listed dropped written
      · exact .removed listed dropped written
    rcases removed : d.remove (s.fileOf id path) with cause | d₁
    · by_cases missing : cause = .notFound
      · rw [missing] at removed ⊢
        exact saves d (.inr ⟨removed, rfl⟩)
      · cases cause with
        | notFound => exact absurd rfl missing
        | _ => exact .stuck listed removed missing
    · exact saves d₁ (.inl removed)

/-! ### Without a log -/

theorem residentIds_without (s : Store) (id : LogId) :
    (s.without id).residentIds = s.residentIds.filter fun other => other ≠ id := by
  rw [residentIds_eq, Recency.keys, residentIds_eq, Recency.keys, List.filter_map]
  rfl

theorem not_mem_without (s : Store) (id : LogId) : id ∉ (s.without id).residentIds := by
  rw [residentIds_without, List.mem_filter, decide_eq_true_eq]
  exact fun both => both.2 rfl

theorem contains_without_self (s : Store) (disk : Disk) (id : LogId) :
    ((s.without id).contains disk id).1 = false := by
  have unknown : (s.without id).cache.contains id = false :=
    Bool.eq_false_iff.mpr fun known => not_mem_without s id (Recency.contains_eq_true.mp known)
  rw [contains_eq, unknown]
  show (Option.isSome ((s.index.erase id).path? id)) = false
  rw [StoreIndex.path?_erase_self]
  rfl

/-- The log is not there, wherever it is looked for. -/
theorem load_without_self (s : Store) (id : LogId) (disk : Disk) :
    ((s.without id).load disk id).1 = .ok none ∧ ((s.without id).remove disk id).1 = .ok false := by
  have listed : (s.without id).index.path? id = none := StoreIndex.path?_erase_self s.index id
  have unknown := Recency.peek?_of_not_mem (not_mem_without s id)
  constructor
  · have absent : ((s.without id).get disk id).1 = none := by
      rw [get_eq, Recency.get, Recency.modify, unknown]
      rfl
    exact load_of_unlisted disk absent listed
  · have removing := (s.without id).removing disk id
    generalize (s.without id).remove disk id = r at removing ⊢
    cases removing with
    | unlisted => rw [unknown]; rfl
    | stuck some => cases some.symm.trans listed
    | unsaved some => cases some.symm.trans listed
    | removed some => cases some.symm.trans listed

/-- Other logs are not touched. -/
theorem without_of_ne {other : LogId} (ne : other ≠ id) :
    (∀ disk, ((s.without id).contains disk other).1 = (s.contains disk other).1 ∧
        ((s.without id).get disk other).1 = (s.get disk other).1) ∧
      (s.without id).index.path? other = s.index.path? other := by
  have path : (s.without id).index.path? other = s.index.path? other :=
    StoreIndex.path?_erase_of_ne s.index ne
  have peek : (s.without id).cache.peek? other = s.cache.peek? other := List.lookup_filter_ne ne
  refine ⟨fun disk => ⟨?_, ?_⟩, path⟩
  · have known : (s.without id).cache.contains other = s.cache.contains other := by
      rw [Bool.eq_iff_iff, Recency.contains_eq_true, Recency.contains_eq_true]
      show other ∈ (s.without id).residentIds ↔ other ∈ s.residentIds
      rw [residentIds_without, List.mem_filter, decide_eq_true_eq, and_iff_left ne]
    rw [contains_eq, contains_eq, known, path]
  · rw [get_eq, get_eq, Recency.get, Recency.get, Recency.modify, Recency.modify, peek]
    rcases s.cache.peek? other with - | copy
    · rfl
    · rfl

/-! ### Failures -/

/-- Removing a log fails.  The store had the log and has forgotten it all the same: it is nowhere to
be found, and removing it again does nothing.  Of the other logs nothing is forgotten.  On the disk
either nothing has happened, so that a store that is opened anew is as it would have been, or the
file is gone and nothing else has changed, so that the list there still has the log. -/
theorem forgotten_of_error (failed : s.remove d id = (.error e, s', d')) :
    s' = s.without id ∧
    (∀ disk, (s.contains disk id).1 = true ∧ (s'.contains disk id).1 = false) ∧
    (∀ disk, (s'.load disk id).1 = .ok none ∧ (s'.remove disk id).1 = .ok false) ∧
    (s'.residentIds = s.residentIds.filter fun other => other ≠ id) ∧
    (∀ other, other ≠ id →
      (∀ disk, (s'.contains disk other).1 = (s.contains disk other).1 ∧
        (s'.get disk other).1 = (s.get disk other).1) ∧
      s'.index.path? other = s.index.path? other) ∧
    ∃ path cause, s.index.path? id = some path ∧
      ((e = .disk (s.fileOf id path) cause ∧ cause ≠ .notFound ∧ d' = d ∧
          ∀ capacity other, reloaded d' s'.dir capacity other = reloaded d s.dir capacity other) ∨
        (e = .disk s.indexPath cause ∧ (∀ bytes, d'.find (s.fileOf id path) ≠ .ok (.file bytes)) ∧
          ∀ names, names ≠ Path.components (s.fileOf id path) →
            d'.node? names = d.node? names)) := by
  have contained : ∀ {path}, s.index.path? id = some path →
      ∀ disk, (s.contains disk id).1 = true := by
    intro path listed disk
    rw [contains_eq, listed, Option.isSome_some, Bool.or_true]
  have removing := s.removing d id
  rw [failed] at removing
  cases removing with
  | @stuck path cause listed removed there =>
    exact ⟨rfl, fun disk => ⟨contained listed disk, contains_without_self s disk id⟩,
      load_without_self s id,
      residentIds_without s id, fun _ => without_of_ne, path, cause, listed,
      .inl ⟨rfl, there, rfl, fun _ _ => rfl⟩⟩
  | @unsaved path cause _ listed dropped =>
    exact ⟨rfl, fun disk => ⟨contained listed disk, contains_without_self s disk id⟩,
      load_without_self s id,
      residentIds_without s id, fun _ => without_of_ne, path, cause, listed,
      .inr ⟨rfl, dropped.gone, fun _ => dropped.others⟩⟩

/-! ### A directory in the place of a file -/

/-- A log that has been put is in the list and in memory, with its file. -/
theorem fileOf_of_put {log : Log} (h : s.put d log = (.ok log, s', d')) :
    s'.index.path? log.id = some (s.pathOf log.id) ∧
      s'.fileOf log.id (s.pathOf log.id) = s.pathOf log.id := by
  rw [put] at h
  rcases valid : log.valid with - | -
  · rw [insert_of_invalid valid] at h
    cases h
  · rw [insert_of_valid rfl valid] at h
    rcases saved : (LogCopy.ofLog d log (filePath s.dir log.id)).save d s.mode with
      ⟨e | ⟨⟩, copy, d₁⟩
    · rw [saved] at h
      cases h
    · obtain ⟨same, -⟩ := LogCopy.found_of_save rfl saved
      rw [saved] at h
      dsimp only at h
      split at h
      · cases h
      · cases h
        have found := Recency.get_put_self s.cache log.id copy
        refine ⟨StoreIndex.path?_insert_self .., ?_⟩
        show ((s.cache.put log.id copy).2.peek? log.id |>.map LogCopy.path).getD _ = _
        rw [Recency.get, Recency.modify] at found
        rcases peeked : (s.cache.put log.id copy).2.peek? log.id with - | copy'
        · rfl
        · rw [peeked] at found
          obtain rfl : copy' = copy := Option.some.inj found
          rw [same]
          rfl

/-- A log has been put, and then its file has been replaced by a directory. -/
theorem exists_blocked :
    ∃ (s : Store) (d : Disk) (file : String), InUse s ∧ (s.get d greeting.id).1 = some greeting ∧
      s.remove d greeting.id = (.error (.disk file .isDirectory), s.without greeting.id, d) := by
  obtain ⟨s, d, d', inUse, put, file, free⟩ := exists_put_greeting
  have got := get_of_put put
  obtain ⟨listed, own⟩ := fileOf_of_put put
  generalize greeting = log at file free got listed own ⊢
  change s.index.path? log.id = some (filePath "logs" log.id) at listed
  change s.fileOf log.id (filePath "logs" log.id) = filePath "logs" log.id at own
  -- the disk has a directory where the file was
  have root : ¬Disk.IsRoot (Path.components (filePath "logs" log.id)) :=
    @Disk.not_isRoot d _ (by simp [free])
  have nodes := @Disk.node?_setNode d _ root .directory
  have kept : d.Keeps (d.setNode (Path.components (filePath "logs" log.id)) .directory) := by
    intro names there
    rw [nodes, there, ite_self]
  have blocked := Disk.remove_of_directory (file.mono kept) (by rw [nodes, if_pos rfl])
  generalize d.setNode _ .directory = d₁ at blocked
  refine ⟨s, d₁, filePath "logs" log.id, inUse, got d₁, ?_⟩
  have removing := s.removing d₁ log.id
  generalize s.remove d₁ log.id = r at removing ⊢
  cases removing with
  | unlisted none => cases listed.symm.trans none
  | stuck same removed =>
    obtain rfl := Option.some.inj (listed.symm.trans same)
    rw [own] at removed ⊢
    rw [Except.error.inj (blocked.symm.trans removed)]
  | unsaved same dropped =>
    obtain rfl := Option.some.inj (listed.symm.trans same)
    rw [own] at dropped
    exact absurd dropped (Disk.not_dropped blocked)
  | removed same dropped =>
    obtain rfl := Option.some.inj (listed.symm.trans same)
    rw [own] at dropped
    exact absurd dropped (Disk.not_dropped blocked)

/-- The store has forgotten the log, and no other. -/
theorem forgotten_of_error_greeting :
    ∃ (s s' : Store) (d d' : Disk) (e : StoreError),
      s.remove d greeting.id = (.error e, s', d') ∧ s' = s.without greeting.id ∧
      (s.contains d greeting.id).1 = true ∧ (s'.contains d' greeting.id).1 = false := by
  obtain ⟨s, d, file, -, -, failed⟩ := exists_blocked
  obtain ⟨store, forgotten, -⟩ := forgotten_of_error failed
  exact ⟨s, _, d, d, _, failed, store, forgotten d⟩

/-- A log that could be loaded cannot be any more when it could not be removed. -/
theorem remove_forgets :
    ∃ (s s' : Store) (d : Disk) (e : StoreError), InUse s ∧
      s.remove d greeting.id = (.error e, s', d) ∧
      ((s.contains d greeting.id).1 = true ∧ (s'.contains d greeting.id).1 = false) ∧
      (greeting.id ∈ s.residentIds ∧ greeting.id ∉ s'.residentIds) ∧
      (s.load d greeting.id).1 = .ok (some greeting) ∧ (s'.load d greeting.id).1 = .ok none := by
  obtain ⟨s, d, file, inUse, got, failed⟩ := exists_blocked
  generalize greeting = log at got failed ⊢
  have known : log.id ∈ s.residentIds := by
    obtain ⟨copy, found, -⟩ := Option.bind_eq_some_iff.mp got
    exact List.mem_map_of_mem (Recency.mem_of_get found)
  have contained : (s.contains d log.id).1 = true := by
    rw [contains_eq, Recency.contains_eq_true.mpr known, Bool.true_or]
  exact ⟨s, _, d, _, inUse, failed, ⟨contained, contains_without_self s d log.id⟩,
    ⟨known, not_mem_without s log.id⟩, load_of_get d got, (load_without_self s log.id d).1⟩

end Scrollback.Store
