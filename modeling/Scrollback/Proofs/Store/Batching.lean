/-
Several logs put at once.  The list is written once and at the end, and only if there is something
new to list; when the logs are put one by one, it is written after each.  Until then the two disks
differ in that one file (`Disk.AlikeBut`), which no log is written to, so that the same logs are
kept on both, and in the end everything is the same (`Store.putAll_eq_puts`).
-/
import Scrollback.Proofs.Store.Refusal

namespace Scrollback

/-! ### Disks that differ in one file -/

namespace Disk

/-- The same lies everywhere but at one path, where no directory is. -/
structure AlikeBut (d d' : Disk) (path : String) : Prop where
  elsewhere : ∀ names, names ≠ Path.components path → d'.node? names = d.node? names
  free : d.node? (Path.components path) ≠ some .directory
  free' : d'.node? (Path.components path) ≠ some .directory

namespace AlikeBut

variable {d d' d₁ : Disk} {path other : String}

theorem symm (h : d.AlikeBut d' path) : d'.AlikeBut d path :=
  ⟨fun names ne => (h.elsewhere names ne).symm, h.free', h.free⟩

theorem keeps (h : d.AlikeBut d' path) : d.Keeps d' := by
  intro names directory
  rw [h.elsewhere, directory]
  rintro rfl
  exact h.free directory

theorem find {n : Node} (h : d.AlikeBut d' path)
    (ne : Path.components other ≠ Path.components path) (found : d.find other = .ok n) :
    d'.find other = .ok n := by
  obtain ⟨reaches, node⟩ := find_eq_ok.mp found
  exact find_eq_ok.mpr ⟨reaches.mono h.keeps, (h.elsewhere _ ne).trans node⟩

theorem isFile (h : d.AlikeBut d' path) (ne : Path.components other ≠ Path.components path) :
    d'.isFile other = d.isFile other :=
  isFile_congr fun _ => ⟨h.symm.find ne, h.find ne⟩

/-- A file that is written on one of them can be written on the other. -/
theorem write {bytes : ByteArray} (h : d.AlikeBut d' path)
    (ne : Path.components other ≠ Path.components path) (written : d.write other bytes = .ok d₁) :
    ∃ d₁', d'.write other bytes = .ok d₁' ∧ d₁.AlikeBut d₁' path := by
  obtain ⟨reaches, free, -⟩ := write_eq_ok.mp written
  have free' : d'.node? (Path.components other) ≠ some .directory := by
    rwa [h.elsewhere _ ne]
  have written' := write_eq_ok.mpr
    ⟨reaches.mono h.keeps, free', @rfl _ (d'.setNode _ (.file bytes))⟩
  refine ⟨_, written', fun names away => ?_, ?_, ?_⟩
  · rw [node?_write written', node?_write written, h.elsewhere names away]
  · rw [node?_write written, if_neg ne.symm]
    exact h.free
  · rw [node?_write written', if_neg ne.symm]
    exact h.free'

/-- It makes no difference that the file at that path is written. -/
theorem written {bytes : ByteArray} (h : d.AlikeBut d' path)
    (written : d'.write path bytes = .ok d₁) : d.AlikeBut d₁ path where
  elsewhere := by
    intro names ne
    rw [node?_write written, if_neg ne, h.elsewhere names ne]
  free := h.free
  free' := by
    rw [node?_write written, if_pos rfl]
    rintro ⟨⟩

/-- Disks that are the same there too are the same. -/
theorem same (h : d.AlikeBut d' path)
    (there : d'.node? (Path.components path) = d.node? (Path.components path)) : d.Same d' := by
  intro names
  by_cases own : names = Path.components path
  · rw [own, there]
  · exact h.elsewhere names own

end AlikeBut

end Disk

/-! ### Saving on them -/

namespace LogCopy

variable {c : LogCopy} {d d' d₁ : Disk} {path : String}

theorem Opens.alike (h : d.AlikeBut d' path)
    (ne : Path.components c.path ≠ Path.components path)
    (directory : d.node? (Path.components ((Path.parent? c.path).getD "")) = some .directory)
    (opens : c.Opens d d₁) : ∃ d₁', c.Opens d' d₁' ∧ d₁.AlikeBut d₁' path := by
  obtain ⟨made, emptied⟩ := opens
  have directory' := h.keeps _ directory
  rw [housed_of_directory directory] at emptied
  obtain ⟨d₁', emptied', alike⟩ := h.write ne emptied
  refine ⟨d₁', ⟨?_, ?_⟩, alike⟩
  · -- of the directory only the text of its path is looked at
    rw [Disk.makeDirectories_eq_of_directory directory] at made
    rw [Disk.makeDirectories_eq_of_directory directory']
    exact made
  · rw [housed_of_directory directory', emptied']

/-- A copy that is saved on one of them is saved on the other. -/
theorem save_alike (h : d.AlikeBut d' path)
    (ne : Path.components c.path ≠ Path.components path)
    (directory : d.node? (Path.components ((Path.parent? c.path).getD "")) = some .directory)
    (mode : Option Mode) :
    (c.save d' mode).1.toOption = (c.save d mode).1.toOption ∧
      (c.save d' mode).2.1 = (c.save d mode).2.1 ∧
      (c.save d mode).2.2.AlikeBut (c.save d' mode).2.2 path := by
  have housed := housed_of_directory directory
  have saving := c.saving d mode
  generalize c.save d mode = r at saving ⊢
  cases saving with
  | absent memory =>
    have answer : c.save d' mode = (.error (.notLoaded c.id), c, d') := by
      rw [save, memory]
    rw [answer]
    exact ⟨rfl, rfl, h⟩
  | failed memory _ _ closed =>
    -- then it cannot be opened on the other disk either
    have closed' : ∀ d₁', ¬c.Opens d' d₁' := by
      intro d₁' opens
      obtain ⟨d₁, opens, -⟩ := opens.alike h.symm ne (h.keeps _ directory)
      exact closed d₁ opens
    have saving := c.saving d' mode
    generalize c.save d' mode = r' at saving ⊢
    cases saving with
    | absent none =>
      rw [memory] at none
      cases none
    | failed =>
      rw [housed, housed_of_directory (h.keeps _ directory)]
      exact ⟨rfl, rfl, h⟩
    | refused _ _ opens => exact absurd opens (closed' _)
    | saved _ _ opens => exact absurd opens (closed' _)
  | refused memory written opens =>
    obtain ⟨d₁', opens', alike⟩ := opens.alike h ne directory
    rw [opens'.save_of_refused memory written]
    exact ⟨rfl, rfl, alike⟩
  | saved memory written opens filled =>
    obtain ⟨d₁', opens', alike⟩ := opens.alike h ne directory
    obtain ⟨d₂', filled', saved⟩ := opens'.save memory written
    obtain ⟨_, again, alike⟩ := alike.write ne filled
    obtain rfl := Except.ok.inj (filled'.symm.trans again)
    rw [saved]
    exact ⟨rfl, rfl, alike⟩

/-- In a directory that is there only the copy's own file changes. -/
theorem node?_save
    (directory : d.node? (Path.components ((Path.parent? c.path).getD "")) = some .directory)
    (mode : Option Mode) {names : List String} (ne : names ≠ Path.components c.path) :
    (c.save d mode).2.2.node? names = d.node? names := by
  have housed := housed_of_directory directory
  have saving := c.saving d mode
  generalize c.save d mode = r at saving ⊢
  cases saving with
  | absent => rfl
  | failed => rw [housed]
  | refused _ _ opens => rw [Disk.node?_write opens.emptied, if_neg ne, housed]
  | saved _ _ opens filled =>
    rw [Disk.node?_write filled, if_neg ne, Disk.node?_write opens.emptied, if_neg ne, housed]

end LogCopy

namespace Store

variable {s : Store} {d d' : Disk}

/-! ### One log -/

/-- On disks that differ in the list the same logs can be written. -/
theorem insert_alike (directory : d.node? (Path.components s.dir) = some .directory)
    (h : d.AlikeBut d' s.indexPath) (log : Log) :
    (s.insert d' log).1.toOption = (s.insert d log).1.toOption ∧
      (s.insert d' log).2.1 = (s.insert d log).2.1 ∧
      (s.insert d log).2.2.AlikeBut (s.insert d' log).2.2 s.indexPath := by
  rcases valid : log.valid with - | -
  · rw [insert_of_invalid valid, insert_of_invalid valid]
    exact ⟨rfl, rfl, h⟩
  · have ne := filePath_ne_listPath s.dir log.id
    have copies : LogCopy.ofLog d' log (filePath s.dir log.id) =
        LogCopy.ofLog d log (filePath s.dir log.id) := by
      rw [LogCopy.ofLog, LogCopy.ofFile, h.isFile ne]
      rfl
    rw [← components_parent_filePath s.dir log.id] at directory
    have saved := @LogCopy.save_alike (LogCopy.ofLog d log (filePath s.dir log.id)) d d'
      s.indexPath h ne directory s.mode
    rw [insert_of_valid rfl valid, insert_of_valid rfl valid, copies]
    generalize (LogCopy.ofLog d log (filePath s.dir log.id)).save d s.mode = r at saved ⊢
    generalize (LogCopy.ofLog d log (filePath s.dir log.id)).save d' s.mode = r' at saved ⊢
    rcases r with ⟨e | ⟨⟩, copy, d₁⟩ <;> rcases r' with ⟨e' | ⟨⟩, copy', d₁'⟩
    · exact ⟨rfl, rfl, saved.2.2⟩
    · cases saved.1
    · cases saved.1
    · obtain ⟨-, same, alike⟩ := saved
      obtain rfl : copy' = copy := same
      exact ⟨rfl, rfl, alike⟩

/-- Writing a log leaves the list as it is. -/
theorem node?_insert (directory : d.node? (Path.components s.dir) = some .directory) (log : Log) :
    (s.insert d log).2.2.node? (Path.components s.indexPath) =
      d.node? (Path.components s.indexPath) := by
  rcases valid : log.valid with - | -
  · rw [insert_of_invalid valid]
  · have ne := (filePath_ne_listPath s.dir log.id).symm
    rw [← components_parent_filePath s.dir log.id] at directory
    have kept := @LogCopy.node?_save (LogCopy.ofLog d log (filePath s.dir log.id)) d directory
      s.mode _ ne
    rw [insert_of_valid rfl valid]
    generalize (LogCopy.ofLog d log (filePath s.dir log.id)).save d s.mode = r at kept ⊢
    rcases r with ⟨e | ⟨⟩, copy, d₁⟩
    · exact kept
    · exact kept

/-! ### Several logs -/

/-- One log among several that are put one by one: how many were kept so far, and what has become of
the store and the disk. -/
def putNext : Nat × Store × Disk → Log → Nat × Store × Disk
  | (n, s, d), log =>
    match s.put d log with
    | (.ok _, s, d) => (n + 1, s, d)
    | (.error _, s, d) => (n, s, d)

/-- Put several logs one by one, whatever comes of each: how many are kept. -/
def puts (s : Store) (d : Disk) (logs : List Log) : Nat × Store × Disk :=
  logs.foldl putNext (0, s, d)

/-- Several logs that are written go along with the same logs that are put: the list alone may be
another, and once a log has been kept it is that of the store. -/
structure Along (a b : Nat × Store × Disk) : Prop where
  count_eq : a.1 = b.1
  store_eq : a.2.1 = b.2.1
  directory : a.2.2.node? (Path.components a.2.1.dir) = some .directory
  reaches : b.2.2.Reaches a.2.1.indexPath
  alike : a.2.2.AlikeBut b.2.2 a.2.1.indexPath
  listed : b.2.2.node? (Path.components a.2.1.indexPath) =
    if a.1 = 0 then a.2.2.node? (Path.components a.2.1.indexPath)
    else some (.file a.2.1.index.toBytes)

theorem Along.next {a b : Nat × Store × Disk} (h : Along a b) (log : Log) :
    Along (insertNext a log) (putNext b log) := by
  obtain ⟨n, s, d⟩ := a
  obtain ⟨n', s', d'⟩ := b
  obtain ⟨count, store, directory, reaches, alike, listed⟩ := h
  dsimp only at *
  subst count store
  have stays := Stays.insert s d log
  have reaches := reaches.mono (Stays.insert s d' log).keeps
  have list := node?_insert directory log
  have list' := node?_insert (alike.keeps _ directory) log
  obtain ⟨answer, store, alike⟩ := insert_alike directory alike log
  rcases s.insert_cases d log with ⟨e, d₁, failed⟩ | ⟨copy, d₁, -, -, -, done⟩
  · -- neither the store nor the lists are changed
    rw [failed] at stays list answer store alike
    rcases other : s.insert d' log with ⟨e' | l, s₁, d₁'⟩
    · rw [other] at reaches list' store alike
      obtain rfl : s₁ = s := store
      rw [insertNext, putNext, failed, put, other]
      refine ⟨rfl, rfl, stays.keeps _ directory, reaches, alike, ?_⟩
      rw [list', list]
      exact listed
    · rw [other] at answer
      cases answer
  · generalize ({ s with
      index := s.index.insert log.id (s.pathOf log.id)
      cache := (s.cache.put log.id copy).2 } : Store) = s₁ at done
    rw [done] at stays answer store alike
    rcases other : s.insert d' log with ⟨e' | l, s₂, d₁'⟩
    · rw [other] at answer
      cases answer
    · -- the list is written on one of the disks, and there it is that of the store now
      rw [other] at reaches store alike
      obtain rfl : s₂ = s₁ := store
      have path : s.indexPath = s₂.indexPath := by rw [indexPath, indexPath, stays.dir_eq]
      rw [path] at reaches alike
      obtain ⟨d₂', written, saved⟩ := saveIndex_of_reaches rfl reaches alike.free'
      rw [insertNext, putNext, done, put, other]
      dsimp only
      rw [saved]
      refine ⟨rfl, rfl, ?_, reaches.mono (Disk.keeps_write written), alike.written written, ?_⟩
      · rw [stays.dir_eq]
        exact stays.keeps _ directory
      · rw [if_neg (Nat.succ_ne_zero n)]
        exact (Disk.node?_write written _).trans (if_pos rfl)

theorem Along.foldl {a b : Nat × Store × Disk} (h : Along a b) (logs : List Log) :
    Along (logs.foldl insertNext a) (logs.foldl putNext b) := by
  induction logs generalizing a b with
  | nil => exact h
  | cons log logs ih => exact ih (h.next log)

/-! ### No log is kept -/

theorem le_foldl_insertNext (a : Nat × Store × Disk) (logs : List Log) :
    a.1 ≤ (logs.foldl insertNext a).1 := by
  induction logs generalizing a with
  | nil => exact Nat.le_refl _
  | cons log logs ih =>
    obtain ⟨n, s, d⟩ := a
    refine Nat.le_trans ?_ (ih _)
    rw [insertNext]
    rcases s.insert d log with ⟨e | l, s₁, d₁⟩
    · exact Nat.le_refl n
    · exact Nat.le_succ n

/-- Logs none of which can be written are put with the same outcome. -/
theorem foldl_putNext_of_none {a : Nat × Store × Disk} {logs : List Log}
    (none : (logs.foldl insertNext a).1 = a.1) :
    logs.foldl putNext a = logs.foldl insertNext a := by
  induction logs generalizing a with
  | nil => rfl
  | cons log logs ih =>
    obtain ⟨n, s, d⟩ := a
    rw [List.foldl_cons] at none ⊢
    rw [List.foldl_cons]
    rcases inserted : s.insert d log with ⟨e | l, s₁, d₁⟩
    · have next : putNext (n, s, d) log = insertNext (n, s, d) log := by
        rw [putNext, insertNext, put, inserted]
      rw [next]
      refine ih (none.trans ?_)
      rw [insertNext, inserted]
    · -- the first one that is written would have been counted
      have more := le_foldl_insertNext (insertNext (n, s, d) log) logs
      rw [none, insertNext, inserted] at more
      exact absurd more (Nat.not_succ_le_self n)

/-! ### A batch -/

theorem saveIndex_eq_ok :
    (s.saveIndex d).1 = .ok () ↔ d.Reaches s.indexPath ∧
      d.node? (Path.components s.indexPath) ≠ some .directory := by
  constructor
  · intro ok
    rw [saveIndex] at ok
    rcases written : d.write s.indexPath s.index.toBytes with e | d'
    · rw [written] at ok
      cases ok
    · obtain ⟨reaches, free, -⟩ := Disk.write_eq_ok.mp written
      exact ⟨reaches, free⟩
  · rintro ⟨reaches, free⟩
    obtain ⟨d', -, saved⟩ := saveIndex_of_reaches rfl reaches free
    rw [saved]

/-- Several logs are put into a store.  If the list can be written, or none of them is kept so that
it is not, then all is as if they had been put one by one and what could not be kept been passed
over: the number of those that were kept, the store, and what lies on the disk. -/
theorem putAll_eq_puts (reachable : Reachable s d) (logs : List Log)
    (writes : 0 < (s.insertAll d logs).1 → (s.saveIndex d).1 = .ok ()) :
    ∃ d', s.putAll d logs = (.ok (s.puts d logs).1, (s.puts d logs).2.1, d') ∧
      (s.puts d logs).2.2.Same d' := by
  have directory := reachable.directory
  rw [insertAll] at writes
  rw [putAll, insertAll, puts]
  by_cases writable : (s.saveIndex d).1 = .ok ()
  · obtain ⟨reaches, free⟩ := saveIndex_eq_ok.mp writable
    have along : Along (0, s, d) (0, s, d) :=
      ⟨rfl, rfl, directory, reaches, ⟨fun _ _ => rfl, free, free⟩, rfl⟩
    obtain ⟨count, store, -, reaches, alike, listed⟩ := along.foldl logs
    generalize logs.foldl insertNext (0, s, d) = a at count store reaches alike listed ⊢
    generalize logs.foldl putNext (0, s, d) = b at count store reaches alike listed ⊢
    obtain ⟨n, s₁, d₁⟩ := a
    obtain ⟨n', s', d₁'⟩ := b
    dsimp only at *
    subst count store
    by_cases none : n = 0
    · rw [if_pos none] at listed ⊢
      rw [none]
      exact ⟨d₁, rfl, alike.symm.same listed.symm⟩
    · -- the list is written now, and is the same as the one written last
      rw [if_neg none] at listed ⊢
      obtain ⟨d₂, written, saved⟩ :=
        saveIndex_of_reaches rfl (reaches.mono alike.symm.keeps) alike.free
      rw [saved]
      refine ⟨d₂, rfl, (alike.symm.written written).same ?_⟩
      rw [listed]
      exact (Disk.node?_write written _).trans (if_pos rfl)
  · have none : (logs.foldl insertNext (0, s, d)).1 = 0 :=
      Nat.eq_zero_of_not_pos fun some => writable (writes some)
    rw [foldl_putNext_of_none none]
    generalize logs.foldl insertNext (0, s, d) = a at none ⊢
    obtain ⟨_, s₁, d₁⟩ := a
    dsimp only at none ⊢
    subst none
    exact ⟨d₁, rfl, fun _ => rfl⟩

/-- Of a log that is not there and one that can be put only the latter is kept. -/
theorem puts_missing {s' : Store} {log : Log} (id : LogId)
    (put : s.put d log = (.ok log, s', d')) : s.puts d [.missing id "", log] = (1, s', d') := by
  have refused : putNext (0, s, d) (.missing id "") = (0, s, d) := by
    rw [putNext, Store.put, insert_of_invalid rfl]
  rw [puts, List.foldl_cons, refused, List.foldl_cons, List.foldl_nil, putNext, put]

/-- They are put into an empty store. -/
theorem putAll_eq_puts_greeting :
    ∃ (s : Store) (d d' : Disk) (logs : List Log), logs = [.missing greeting.id "", greeting] ∧
      Reachable s d ∧ (s.saveIndex d).1 = .ok () ∧ (s.puts d logs).1 = 1 ∧
      s.putAll d logs = (.ok (s.puts d logs).1, (s.puts d logs).2.1, d') ∧
      (s.puts d logs).2.2.Same d' := by
  obtain ⟨d, opened, directory, ⟨list, unlisted⟩, file, free⟩ := exists_emptyLogs
  have reachable : Reachable (bare "logs" 1 none) d := .opened opened none
  have valid : greeting.valid = true := by rw [greeting_eq]
  have listFree : d.node? (Path.components (listPath "logs")) ≠ some .directory := by
    simp [unlisted]
  obtain ⟨s', d', put, -⟩ := @put_of_reaches "logs" (bare "logs" 1 none) d greeting rfl rfl
    keepable_greeting valid (makeDirectories_greeting directory) file (by simp [free]) list listFree
  generalize greeting = log at put ⊢
  have writes : ((bare "logs" 1 none).saveIndex d).1 = .ok () :=
    saveIndex_eq_ok.mpr ⟨list, listFree⟩
  obtain ⟨d'', batch, same⟩ := putAll_eq_puts reachable [.missing log.id "", log] fun _ => writes
  exact ⟨_, d, d'', _, rfl, reachable, writes, by rw [puts_missing _ put], batch, same⟩

end Store

end Scrollback
