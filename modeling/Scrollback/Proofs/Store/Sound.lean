/-
A store holds logs in four places: copies in memory, the list of the files, the files, and the file
of the list.  `Store.Sound` and `Store.Saved` say that they agree on which logs are held.  A copy in
memory may be the log that was put or one that was read from its file, so it is the log up to what
writing does to it (`Store.SameLog`).

A file that is written or removed brings in or takes away just its log (`Store.Files.keep`,
`Store.Files.forget`), as the names of files tell all logs apart.
-/
import Scrollback.Proofs.Codec.RoundTrip
import Scrollback.Proofs.Disk.Frame
import Scrollback.Proofs.Store.FileName
import Scrollback.Proofs.Store.Index

namespace Scrollback

/-- A log that can be kept and given back: it was read off an answer or decoded, and the calendar
has the times of its lines.  A text is of any length here, so that it is said too that a valid log
fits the widest mode, that is a file of less than 2^64 bytes; no other file could be written. -/
structure Log.Keepable (log : Log) : Prop where
  obtained : log.Obtained
  times : ∀ l ∈ log.lines, l.time.Representable
  writable : log.valid = true → ∃ out, Codec.encode log .u64 .native = .ok out

/-- A log that can be kept is written, and what is written is read back. -/
theorem Log.Keepable.exists_written {log : Log} (h : log.Keepable) (valid : log.valid = true) :
    ∃ out back, Codec.encode log (Codec.narrowest log) .native = .ok out ∧
      Codec.decode out.toByteArray = .ok back ∧ log.ReadBack back := by
  obtain ⟨wide, widest⟩ := h.writable valid
  have storable := h.obtained.storable
  obtain ⟨out, written⟩ := Codec.exists_encode_narrowest storable.names_increase widest
  obtain ⟨back, read, same⟩ := Codec.decode_of_representable storable written h.times
  exact ⟨out, back, written, read, same⟩

/-- Which logs are held. -/
abbrev Holdings := LogId → Option Log

namespace Store

variable {dir : String} {m : Holdings} {s : Store} {x : StoreIndex} {d d' : Disk}
  {id : LogId} {log : Log}

/-! ### Paths -/

/-- The path of a log's file in a directory. -/
def filePath (dir : String) (id : LogId) : String :=
  Path.join dir (fileName id)

/-- The path of the list of all logs in a directory. -/
def listPath (dir : String) : String :=
  Path.join dir "index.json"

theorem components_filePath (dir : String) (id : LogId) :
    Path.components (filePath dir id) = Path.components dir ++ [fileName id] :=
  Path.components_join dir (isName_fileName id)

theorem isName_list : Path.IsName "index.json" :=
  ⟨by decide, by decide, by decide⟩

theorem components_listPath (dir : String) :
    Path.components (listPath dir) = Path.components dir ++ ["index.json"] :=
  Path.components_join dir isName_list

/-- The list is no file of a log. -/
theorem ne_list {name : String} (h : ".bin".toList <:+ name.toList) :
    Path.components dir ++ [name] ≠ Path.components (listPath dir) := by
  rw [components_listPath]
  intro same
  obtain rfl := List.singleton_inj.mp (List.append_cancel_left same)
  exact absurd h (by decide)

theorem filePath_ne_listPath (dir : String) (id : LogId) :
    Path.components (filePath dir id) ≠ Path.components (listPath dir) := by
  rw [components_filePath]
  exact ne_list (suffix_fileName id)

theorem filePath_ne {id other : LogId} (h : other ≠ id) :
    Path.components (filePath dir other) ≠ Path.components (filePath dir id) := by
  rw [components_filePath, components_filePath]
  intro same
  exact h (fileName_inj (List.singleton_inj.mp (List.append_cancel_left same)))

/-! ### Four places in agreement -/

/-- The log itself, or what is read when it has been written. -/
def SameLog (log l : Log) : Prop :=
  l = log ∨ log.ReadBack l

/-- The files of logs in the directory are those of the logs that are held. -/
structure Files (dir : String) (m : Holdings) (d : Disk) : Prop where
  id_eq : ∀ {id : LogId} {log : Log}, m id = some log → log.id = id
  stored : ∀ {id : LogId} {log : Log}, m id = some log →
    ∃ bytes back, d.find (filePath dir id) = .ok (.file bytes) ∧
      Codec.decode bytes = .ok back ∧ log.ReadBack back
  only : ∀ {name : String} {bytes : ByteArray}, ".bin".toList <:+ name.toList →
    d.node? (Path.components dir ++ [name]) = some (.file bytes) →
    ∃ id, (m id).isSome = true ∧ name = fileName id

/-- The list has the files of the logs that are held. -/
structure Listed (dir : String) (m : Holdings) (x : StoreIndex) : Prop where
  distinct : x.Distinct
  path_eq : ∀ id, x.path? id = (m id).map fun _ => filePath dir id

/-- An entry of the memory is a copy of a log that is held. -/
structure IsCopy (dir : String) (m : Holdings) (e : LogId × LogCopy) : Prop where
  memory : ∃ log l, m e.1 = some log ∧ e.2.memory = some l ∧ SameLog log l
  path_eq : e.2.path = filePath dir e.1

/-- The memory, the list and the files agree. -/
structure Sound (dir : String) (m : Holdings) (s : Store) (d : Disk) : Prop where
  dir_eq : s.dir = dir
  mode_eq : s.mode = none
  listed : Listed dir m s.index
  copies : ∀ e ∈ s.cache.entries, IsCopy dir m e
  files : Files dir m d

/-- The file of the list agrees too; where nothing is held it may be missing. -/
def Saved (dir : String) (m : Holdings) (d : Disk) : Prop :=
  ((∀ id, m id = none) ∧
    ∀ bytes, d.node? (Path.components (listPath dir)) ≠ some (.file bytes)) ∨
  ∃ bytes x, d.find (listPath dir) = .ok (.file bytes) ∧
    StoreIndex.ofBytes? bytes = some x ∧ Listed dir m x

theorem Files.grown (h : Files dir m d) (grown : d.Grown d') : Files dir m d' where
  id_eq := h.id_eq
  stored := by
    intro id log held
    obtain ⟨bytes, back, found, read, same⟩ := h.stored held
    exact ⟨bytes, back, grown.find found, read, same⟩
  only := fun suffix node => h.only suffix (grown.file_iff.mp node)

theorem Saved.grown (h : Saved dir m d) (grown : d.Grown d') : Saved dir m d' := by
  rcases h with ⟨nothing, missing⟩ | ⟨bytes, x, found, read, listed⟩
  · exact .inl ⟨nothing, fun bytes node => missing bytes (grown.file_iff.mp node)⟩
  · exact .inr ⟨bytes, x, grown.find found, read, listed⟩

/-! ### Logs that come and go -/

/-- A log is held. -/
def keep (m : Holdings) (log : Log) : Holdings :=
  Function.update m log.id (some log)

/-- A log is no longer held. -/
def forget (m : Holdings) (id : LogId) : Holdings :=
  Function.update m id none

theorem keep_self (m : Holdings) (log : Log) : keep m log log.id = some log :=
  Function.update_self ..

theorem keep_of_ne {id : LogId} (h : id ≠ log.id) : keep m log id = m id :=
  Function.update_of_ne h ..

theorem forget_self (m : Holdings) (id : LogId) : forget m id id = none :=
  Function.update_self ..

theorem forget_of_ne {id other : LogId} (h : other ≠ id) : forget m id other = m other :=
  Function.update_of_ne h ..

theorem Listed.keep (h : Listed dir m x) (log : Log) :
    Listed dir (keep m log) (x.insert log.id (filePath dir log.id)) where
  distinct := h.distinct.insert _ _
  path_eq := by
    intro id
    by_cases same : id = log.id
    · subst same
      rw [StoreIndex.path?_insert_self, keep_self]
      rfl
    · rw [StoreIndex.path?_insert_of_ne _ _ same, keep_of_ne same, h.path_eq]

theorem Listed.forget (h : Listed dir m x) (id : LogId) :
    Listed dir (forget m id) (x.erase id) where
  distinct := h.distinct.erase id
  path_eq := by
    intro other
    by_cases same : other = id
    · subst same
      rw [StoreIndex.path?_erase_self, forget_self]
      rfl
    · rw [StoreIndex.path?_erase_of_ne _ same, forget_of_ne same, h.path_eq]

/-- A copy of another log is still one. -/
theorem IsCopy.keep {e : LogId × LogCopy} (h : IsCopy dir m e) (ne : e.1 ≠ log.id) :
    IsCopy dir (keep m log) e where
  memory := by
    rw [keep_of_ne ne]
    exact h.memory
  path_eq := h.path_eq

theorem IsCopy.forget {e : LogId × LogCopy} (h : IsCopy dir m e) (ne : e.1 ≠ id) :
    IsCopy dir (forget m id) e where
  memory := by
    rw [forget_of_ne ne]
    exact h.memory
  path_eq := h.path_eq

/-- Writing the list changes no file of a log. -/
theorem Files.wroteList {bytes : ByteArray} (h : Files dir m d)
    (wrote : d.Wrote d' (listPath dir) bytes) : Files dir m d' where
  id_eq := h.id_eq
  stored := by
    intro id log held
    obtain ⟨old, back, found, read, same⟩ := h.stored held
    exact ⟨old, back, wrote.others (filePath_ne_listPath dir id) found, read, same⟩
  only := fun suffix node => h.only suffix (wrote.files (ne_list suffix) node)

/-- A log whose file has been written is held. -/
theorem Files.keep {bytes : ByteArray} {back : Log} (h : Files dir m d)
    (wrote : d.Wrote d' (filePath dir log.id) bytes) (read : Codec.decode bytes = .ok back)
    (same : log.ReadBack back) : Files dir (keep m log) d' where
  id_eq := by
    intro id kept held
    by_cases this : id = log.id
    · subst this
      rw [keep_self] at held
      rw [← Option.some.inj held]
    · rw [keep_of_ne this] at held
      exact h.id_eq held
  stored := by
    intro id kept held
    by_cases this : id = log.id
    · -- the file has just been written
      subst this
      rw [keep_self] at held
      obtain rfl := Option.some.inj held
      exact ⟨bytes, back, wrote.written, read, same⟩
    · rw [keep_of_ne this] at held
      obtain ⟨old, before, found, reads, sameOld⟩ := h.stored held
      exact ⟨old, before, wrote.others (filePath_ne this) found, reads, sameOld⟩
  only := by
    intro name old suffix node
    -- names of files tell logs apart, so another name is that of another log
    by_cases this : name = fileName log.id
    · exact ⟨log.id, by rw [keep_self]; rfl, this⟩
    · have ne : Path.components dir ++ [name] ≠ Path.components (filePath dir log.id) := by
        rw [components_filePath]
        intro path
        exact this (List.singleton_inj.mp (List.append_cancel_left path))
      obtain ⟨id, held, rfl⟩ := h.only suffix (wrote.files ne node)
      refine ⟨id, ?_, rfl⟩
      rw [keep_of_ne (fun same => this (by rw [same]))]
      exact held

/-- A log whose file has been removed is no longer held. -/
theorem Files.forget (h : Files dir m d) (removed : d.remove (filePath dir id) = .ok d') :
    Files dir (forget m id) d' where
  id_eq := by
    intro other log held
    by_cases this : other = id
    · rw [this, forget_self] at held
      cases held
    · rw [forget_of_ne this] at held
      exact h.id_eq held
  stored := by
    intro other log held
    by_cases this : other = id
    · rw [this, forget_self] at held
      cases held
    · rw [forget_of_ne this] at held
      obtain ⟨bytes, back, found, read, same⟩ := h.stored held
      exact ⟨bytes, back, Disk.find_remove_of_ne removed (filePath_ne this) found, read, same⟩
  only := by
    intro name bytes suffix node
    rw [Disk.node?_remove removed] at node
    split at node
    · cases node
    · next ne =>
      obtain ⟨other, held, rfl⟩ := h.only suffix node
      refine ⟨other, ?_, rfl⟩
      rw [forget_of_ne]
      · exact held
      · rintro rfl
        exact ne (components_filePath dir other).symm

end Store

end Scrollback
