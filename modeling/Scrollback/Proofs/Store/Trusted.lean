/-
What a store hands out while others meddle with its files.  Between any two operations every file
of the directory may be changed, removed or put in place of another, the list of the files among
them.  The store reads a file at one place only, and there the log must decode and must have the
identifier that was asked for; from then on the log is in memory and is not looked at again.  So
what is trusted is the memory: every log in it was checked on its way in (`Store.Honest`), no
operation on any disk brings in another (`Store.Honest.run`), and what is handed out comes from
memory or has just been checked (`Store.trusted_of_disturbed`).
-/
import Scrollback.Proofs.Log.Parsed
import Scrollback.Proofs.Store.Origin
import Scrollback.Proofs.Store.LastPut

namespace Scrollback

variable {s : Store} {d d' : Disk} {id : LogId} {log : Log}

/-- The log may be handed out as the one of an identifier. -/
structure Log.Trusted (log : Log) (id : LogId) : Prop where
  valid : log.valid = true
  wellFormed : log.WellFormed
  id_eq : log.id = id

/-- A log that is decoded may be handed out as what it says that it is. -/
theorem Codec.trusted_of_decode {bytes : ByteArray} (h : decode bytes = .ok log) :
    log.Trusted log.id := by
  obtain ⟨r, lines, read, rfl⟩ := decode_eq_ok.mp h
  exact ⟨rfl, r.logWith_wellFormed read, rfl⟩

namespace LogCopy

/-- A file is read only as the log that it is for, whatever its bytes are. -/
theorem trusted_of_readFile {c : LogCopy} (h : c.readFile d = .ok log) : log.Trusted c.id := by
  obtain ⟨bytes, -, read, same⟩ := readFile_eq_ok.mp h
  rw [← same]
  exact Codec.trusted_of_decode read

/-- A copy in memory that may be handed out as the log of an identifier. -/
structure Honest (copy : LogCopy) (id : LogId) : Prop where
  id_eq : copy.id = id
  memory : ∃ log, copy.memory = some log ∧ log.Trusted id

end LogCopy

namespace Store

/-- Every log in memory may be handed out as the one of the identifier that it is kept under. -/
def Honest (s : Store) : Prop :=
  ∀ e ∈ s.cache.entries, e.2.Honest e.1

namespace Honest

/-- Memory may forget logs, and learn some that may be handed out. -/
theorem of_cache {s' : Store} (h : s.Honest)
    (sub : ∀ e ∈ s'.cache.entries, e ∈ s.cache.entries ∨ e.2.Honest e.1) : s'.Honest := by
  intro e he
  rcases sub e he with old | new
  · exact h e old
  · exact new

/-! ### What is handed out -/

theorem of_get (h : s.Honest) (got : (s.get d id).1 = some log) : log.Trusted id := by
  obtain ⟨copy, found, memory⟩ := Option.bind_eq_some_iff.mp got
  obtain ⟨log', memory', trusted⟩ := (h _ (Recency.mem_of_get found)).memory
  obtain rfl := Option.some.inj (memory.symm.trans memory')
  exact trusted

/-- What is loaded comes from memory, or has just been read from a file. -/
theorem of_load (h : s.Honest) (loaded : (s.load d id).1 = .ok (some log)) : log.Trusted id := by
  rcases load_cases loaded with got | ⟨path, -, read⟩
  · exact h.of_get got
  · exact LogCopy.trusted_of_readFile read

/-! ### Operations -/

theorem get (h : s.Honest) (d : Disk) (id : LogId) : (s.get d id).2.1.Honest :=
  h.of_cache fun _ he => .inl (Recency.mem_get he)

/-- A log that is loaded is checked before it comes into memory. -/
theorem load (h : s.Honest) (d : Disk) (id : LogId) : (s.load d id).2.1.Honest := by
  refine h.of_cache fun e he => ?_
  rcases mem_load he with old | ⟨path, log, -, read, rfl⟩
  · exact .inl old
  · exact .inr ⟨rfl, log, rfl, LogCopy.trusted_of_readFile read⟩

/-- A log that is put is valid, and comes into memory as it is. -/
theorem insert (h : s.Honest) (d : Disk) (given : log.valid = true → log.WellFormed) :
    (s.insert d log).2.1.Honest := by
  rcases s.insert_cases d log with ⟨e, d', failed⟩ | ⟨copy, d', valid, named, memory, done⟩
  · rw [failed]
    exact h
  · -- only the log itself comes in, under its own identifier, wherever its file went
    rw [done]
    refine h.of_cache fun e he => ?_
    rcases Recency.mem_put he with rfl | ⟨old, -⟩
    · exact .inr ⟨named, log, memory, valid, given valid, rfl⟩
    · exact .inl old

theorem insertAll {logs : List Log} (h : s.Honest) (d : Disk)
    (given : ∀ log ∈ logs, log.valid = true → log.WellFormed) :
    (s.insertAll d logs).2.1.Honest :=
  insertAll_keeps (P := fun s _ => s.Honest) (fun _ d log hlog h => h.insert d (given log hlog)) h 0

/-- Writing the list afterwards changes nothing in memory. -/
theorem put (h : s.Honest) (d : Disk) (given : log.valid = true → log.WellFormed) :
    (s.put d log).2.1.Honest := by
  have step := h.insert d given
  rw [Store.put]
  generalize s.insert d log = r at step ⊢
  rcases r with ⟨e | back, s₁, d₁⟩
  · exact step
  · dsimp only
    split
    · exact step
    · exact step

/-- Of the logs in memory none but the one that is forgotten is touched, whatever its file does. -/
theorem remove (h : s.Honest) (d : Disk) (id : LogId) : (s.remove d id).2.1.Honest := by
  have rest : ∀ index, Honest { s with cache := (s.cache.remove id).2, index := index } :=
    fun _ => h.of_cache fun _ he => .inl (Recency.mem_others.mp he).1
  rw [Store.remove]
  dsimp only
  split
  · exact rest _
  · split
    · exact rest _
    · split
      · exact rest _
      · exact rest _

/-- A store that is opened has nothing in memory. -/
theorem openAt {dir : String} {capacity : Nat} {s : Store}
    (opened : (Store.openAt d dir capacity).1 = .ok s) : s.Honest := by
  intro e he
  rw [cache_openAt opened] at he
  cases he

/-- No operation brings a log into memory that must not be handed out, whatever is on the disk. -/
theorem run (h : s.Honest) (d : Disk) {op : Op}
    (given : ∀ log ∈ op.logs, log.valid = true → log.WellFormed) : (op.run s d).1.Honest := by
  cases op with
  | put log => exact h.put d (given log List.mem_cons_self)
  | putAll logs =>
    show (s.putAll d logs).2.1.Honest
    rw [putAll_store]
    exact h.insertAll d given
  | get id => exact h.get d id
  | load id => exact h.load d id
  | remove id => exact h.remove d id
  | contains id => exact h
  | resize capacity => exact h.of_cache fun _ he => .inl (Recency.mem_resize he)
  | saveIndex => exact h
  | loadIndex =>
    -- the list may come from anyone: it says where files are, and files are checked
    refine h.of_cache fun e he => .inl ?_
    rwa [Op.run_loadIndex, cache_loadIndex] at he
  | reopen capacity =>
    show ((Store.openAt d s.dir capacity).1.toOption.getD s).Honest
    rcases opened : (Store.openAt d s.dir capacity).1 with e | s₁
    · exact h
    · exact openAt opened

end Honest

/-! ### Interference -/

/-- A store that has been opened, and the disk with it, after operations on logs that the library
has come by.  Before any of them the disk may have been exchanged for another, and another mode may
have been set. -/
inductive Disturbed : Store → Disk → Prop
  | opened {d₀ d : Disk} {dir : String} {capacity : Nat} {s : Store}
    (h : openAt d₀ dir capacity = (.ok s, d)) : Disturbed s d
  | run {s : Store} {d : Disk} (h : Disturbed s d) (op : Op)
    (given : ∀ log ∈ op.logs, log.Obtained ∨ log.valid = false) :
    Disturbed (op.run s d).1 (op.run s d).2
  | meddled {s : Store} {d : Disk} (h : Disturbed s d) (d' : Disk) : Disturbed s d'
  | moded {s : Store} {d : Disk} (h : Disturbed s d) (mode : Option Mode) :
    Disturbed { s with mode := mode } d

theorem honest_of_disturbed (h : Disturbed s d) : s.Honest := by
  -- the disk does not occur in what is kept, so whoever changes it changes nothing
  induction h with
  | opened h => exact Honest.openAt (congrArg Prod.fst h)
  | @run s d h op given ih =>
    refine ih.run d fun log hlog valid => ?_
    rcases given log hlog with obtained | invalid
    · exact obtained.wellFormed
    · rw [valid] at invalid
      cases invalid
  | meddled h d' ih => exact ih
  | moded h mode ih => exact ih

/-- A store never answers with a wrong log.  Whoever changes its files between the operations, a log
that it hands out is valid, well formed and the one that was asked for, and so is every log in
memory for the identifier that it is kept under. -/
theorem trusted_of_disturbed (h : Disturbed s d) :
    (∀ id log, (s.get d id).1 = some log → log.Trusted id) ∧
    (∀ id log, (s.load d id).1 = .ok (some log) → log.Trusted id) ∧
    (∀ log log', log.Obtained ∨ log.valid = false → (s.put d log).1 = .ok log' →
      log'.Trusted log.id) ∧
    ∀ e ∈ s.cache.entries, e.2.Honest e.1 := by
  have honest := honest_of_disturbed h
  refine ⟨fun _ _ => honest.of_get, fun _ _ => honest.of_load, ?_, honest⟩
  intro log log' given put
  -- a log that is put is handed back as it was given
  obtain ⟨valid, rfl⟩ : log.valid = true ∧ log' = log := by
    rcases valid : log.valid with - | -
    · rw [Store.put, insert_of_invalid valid] at put
      cases put
    · refine ⟨rfl, ?_⟩
      rw [Store.put, insert_of_valid rfl valid] at put
      generalize (LogCopy.ofLog d log (filePath s.dir log.id)).save d s.mode = saved at put
      rcases saved with ⟨e | ⟨⟩, copy, d₁⟩
      · cases put
      · dsimp only at put
        split at put
        · cases put
        · cases put
          rfl
  rcases given with obtained | invalid
  · exact ⟨valid, obtained.wellFormed, rfl⟩
  · rw [valid] at invalid
    cases invalid

/-- A log is put, and then all files are removed, the list of them with the others. -/
theorem trusted_greeting :
    ∃ s, Disturbed s ⟨[]⟩ ∧ (s.get ⟨[]⟩ greeting.id).1 = some greeting ∧
      (s.load ⟨[]⟩ greeting.id).1 = .ok (some greeting) ∧ greeting.Trusted greeting.id := by
  obtain ⟨d, opened, directory, ⟨list, unlisted⟩, file, free⟩ := exists_emptyLogs
  have valid : greeting.valid = true := by rw [greeting_eq]
  generalize empty : (⟨"logs", .empty 1, .empty, none⟩ : Store) = s₀ at opened
  have dir_eq : s₀.dir = "logs" := by rw [← empty]
  have mode_eq : s₀.mode = none := by rw [← empty]
  obtain ⟨s, d', put, -⟩ := put_of_reaches dir_eq mode_eq keepable_greeting valid
    (makeDirectories_greeting directory) file (by simp [free]) list (by simp [unlisted])
  have got := get_of_put put ⟨[]⟩
  have disturbed : Disturbed s ⟨[]⟩ := by
    have run := (Disturbed.opened opened).run (.put greeting) (by
      intro log hlog
      obtain rfl := List.mem_singleton.mp hlog
      exact .inl (.parsed ..))
    have same : (Op.put greeting).run s₀ d = (s, d') := congrArg Prod.snd put
    rw [same] at run
    exact run.meddled ⟨[]⟩
  exact ⟨s, disturbed, got, load_of_get _ got, (trusted_of_disturbed disturbed).1 _ _ got⟩

end Store

end Scrollback
