/-
The copies of one log.  What can come of saving one is said once (`LogCopy.saving`): a log in memory
that can be written is written, unless the disk fails (`LogCopy.save_cases`); one that cannot leaves
its file empty (`LogCopy.save_outcomes`).  A log in a file is read and removed, and there the disk
cannot fail.
-/
import Scrollback.Proofs.Disk.Frame
import Scrollback.Store.Copy

namespace Scrollback.LogCopy

variable {c : LogCopy} {d d' : Disk} {log : Log}

/-! ### Saving -/

/-- The disk with the directory of the file, if that can be made. -/
def housed (c : LogCopy) (d : Disk) : Disk :=
  (d.makeDirectories ((Path.parent? c.path).getD "")).2

theorem grown_housed (c : LogCopy) (d : Disk) : d.Grown (c.housed d) :=
  d.grown_makeDirectories _

/-- The file can be made, and its directory; it is empty then. -/
structure Opens (c : LogCopy) (d d' : Disk) : Prop where
  made : (d.makeDirectories ((Path.parent? c.path).getD "")).1 = .ok ()
  emptied : (c.housed d).write c.path .empty = .ok d'

/-- What can come of saving a copy.  A file that is empty can be filled, so that after it has been
made only the codec can refuse the log. -/
inductive Saving (c : LogCopy) (d : Disk) (mode : Option Mode) :
    Except StoreError Unit × LogCopy × Disk → Prop
  /-- There is nothing to save. -/
  | absent (memory : c.memory = none) : Saving c d mode (.error (.notLoaded c.id), c, d)
  /-- The directory or the file cannot be made. -/
  | failed {log : Log} (memory : c.memory = some log) (path : String) (e : DiskError)
    (closed : ∀ d', ¬c.Opens d d') : Saving c d mode (.error (.disk path e), c, c.housed d)
  /-- The file has been made, and stays empty. -/
  | refused {log : Log} {cause : CodecError} {d' : Disk} (memory : c.memory = some log)
    (written : Codec.encode log (mode.getD (Codec.narrowest log)) .native = .error cause)
    (opens : c.Opens d d') : Saving c d mode (.error (.codec c.path cause), c, d')
  /-- The file has been made and filled. -/
  | saved {log : Log} {out : List UInt8} {d₁ d' : Disk} (memory : c.memory = some log)
    (written : Codec.encode log (mode.getD (Codec.narrowest log)) .native = .ok out)
    (opens : c.Opens d d₁) (filled : d₁.write c.path out.toByteArray = .ok d') :
    Saving c d mode (.ok (), { c with stored := true }, d')

theorem saving (c : LogCopy) (d : Disk) (mode : Option Mode) : Saving c d mode (c.save d mode) := by
  rw [save]
  rcases memory : c.memory with - | log
  · exact .absent memory
  · dsimp only
    rcases made : d.makeDirectories ((Path.parent? c.path).getD "") with ⟨e | ⟨⟩, d₁⟩
    · obtain rfl : c.housed d = d₁ := congrArg Prod.snd made
      refine .failed memory _ e fun d' opens => ?_
      have failed := opens.made
      rw [made] at failed
      cases failed
    · obtain rfl : c.housed d = d₁ := congrArg Prod.snd made
      dsimp only
      rcases emptied : (c.housed d).write c.path .empty with e | d₂
      · refine .failed memory _ e fun d' opens => ?_
        have failed := opens.emptied
        rw [emptied] at failed
        cases failed
      · have opens : c.Opens d d₂ := ⟨congrArg Prod.fst made, emptied⟩
        dsimp only
        rcases written : Codec.encode log (mode.getD (Codec.narrowest log)) .native with e | out
        · exact .refused memory written opens
        · obtain ⟨d₃, filled⟩ := Disk.exists_write_again emptied out.toByteArray
          dsimp only
          rw [filled, ← memory]
          exact .saved memory written opens filled

/-- A log that can be written is saved where its file can be made. -/
theorem Opens.save {mode : Option Mode} {out : List UInt8} (opens : c.Opens d d')
    (memory : c.memory = some log)
    (written : Codec.encode log (mode.getD (Codec.narrowest log)) .native = .ok out) :
    ∃ d'', d'.write c.path out.toByteArray = .ok d'' ∧
      c.save d mode = (.ok (), { c with stored := true }, d'') := by
  obtain ⟨made, emptied⟩ := opens
  obtain ⟨d'', filled⟩ := Disk.exists_write_again emptied out.toByteArray
  have made : d.makeDirectories ((Path.parent? c.path).getD "") = (.ok (), c.housed d) :=
    Prod.ext made rfl
  refine ⟨d'', filled, ?_⟩
  simp only [LogCopy.save, memory, made]
  rw [emptied, written]
  dsimp only
  rw [filled]

/-- A log that cannot be written leaves its file empty. -/
theorem Opens.save_of_refused {mode : Option Mode} {cause : CodecError} (opens : c.Opens d d')
    (memory : c.memory = some log)
    (refused : Codec.encode log (mode.getD (Codec.narrowest log)) .native = .error cause) :
    c.save d mode = (.error (.codec c.path cause), c, d') := by
  obtain ⟨made, emptied⟩ := opens
  have made : d.makeDirectories ((Path.parent? c.path).getD "") = (.ok (), c.housed d) :=
    Prod.ext made rfl
  simp only [LogCopy.save, memory, made]
  rw [emptied, refused]

/-- In a directory that is there a file can be made where it can be written. -/
theorem exists_opens (made : d.makeDirectories ((Path.parent? c.path).getD "") = (.ok (), d))
    (reaches : d.Reaches c.path) (free : d.node? (Path.components c.path) ≠ some .directory) :
    ∃ d', d.write c.path .empty = .ok d' ∧ c.Opens d d' := by
  have emptied := Disk.write_eq_ok.mpr ⟨reaches, free, @rfl _ (d.setNode _ (.file .empty))⟩
  have housed : c.housed d = d := congrArg Prod.snd made
  refine ⟨_, emptied, congrArg Prod.fst made, ?_⟩
  rw [housed, emptied]

theorem housed_of_directory
    (directory : d.node? (Path.components ((Path.parent? c.path).getD "")) = some .directory) :
    c.housed d = d := by
  rw [housed, Disk.makeDirectories_eq_of_directory directory]

/-- The only failure of a log that can be written is one of the disk. -/
theorem save_cases {mode : Option Mode} {out : List UInt8} (memory : c.memory = some log)
    (written : Codec.encode log (mode.getD (Codec.narrowest log)) .native = .ok out) :
    (∃ d', d.Wrote d' c.path out.toByteArray ∧
      c.save d mode = (.ok (), { c with stored := true }, d')) ∨
    ∃ path e d', c.save d mode = (.error (.disk path e), c, d') := by
  have saving := c.saving d mode
  generalize c.save d mode = r at saving ⊢
  cases saving with
  | absent none =>
    rw [memory] at none
    cases none
  | failed _ path e => exact .inr ⟨path, e, _, rfl⟩
  | refused same refused =>
    obtain rfl := Option.some.inj (memory.symm.trans same)
    rw [written] at refused
    cases refused
  | saved same written' opens filled =>
    obtain rfl := Option.some.inj (memory.symm.trans same)
    obtain rfl := Except.ok.inj (written.symm.trans written')
    have twice := (Disk.wrote opens.emptied).trans (Disk.wrote filled)
    exact .inl ⟨_, (c.grown_housed d).wrote twice, rfl⟩

/-- A log that can be written is written where its file can be. -/
theorem save_of_reaches {mode : Option Mode} {out : List UInt8} (memory : c.memory = some log)
    (written : Codec.encode log (mode.getD (Codec.narrowest log)) .native = .ok out)
    (made : d.makeDirectories ((Path.parent? c.path).getD "") = (.ok (), d))
    (reaches : d.Reaches c.path) (free : d.node? (Path.components c.path) ≠ some .directory) :
    ∃ d₁ d₂, d.write c.path .empty = .ok d₁ ∧ d₁.write c.path out.toByteArray = .ok d₂ ∧
      c.save d mode = (.ok (), { c with stored := true }, d₂) := by
  obtain ⟨d₁, emptied, opens⟩ := exists_opens made reaches free
  obtain ⟨d₂, filled, saved⟩ := opens.save memory written
  exact ⟨d₁, d₂, emptied, filled, saved⟩

/-- A log that cannot be written leaves its file empty, where that can be made so. -/
theorem save_of_refused {mode : Option Mode} {cause : CodecError} (memory : c.memory = some log)
    (refused : Codec.encode log (mode.getD (Codec.narrowest log)) .native = .error cause)
    (made : d.makeDirectories ((Path.parent? c.path).getD "") = (.ok (), d))
    (reaches : d.Reaches c.path) (free : d.node? (Path.components c.path) ≠ some .directory) :
    ∃ d', d.write c.path .empty = .ok d' ∧
      c.save d mode = (.error (.codec c.path cause), c, d') := by
  obtain ⟨d', emptied, opens⟩ := exists_opens made reaches free
  exact ⟨d', emptied, opens.save_of_refused memory refused⟩

/-- What can come of saving a log in a directory that is there. -/
theorem save_outcomes (memory : c.memory = some log)
    (directory : d.node? (Path.components ((Path.parent? c.path).getD "")) = some .directory)
    (mode : Option Mode) :
    (∃ d', c.save d mode = (.ok (), { c with stored := true }, d')) ∨
    (∃ cause d', d.write c.path .empty = .ok d' ∧
      c.save d mode = (.error (.codec c.path cause), c, d')) ∨
    ∃ path e d', c.save d mode = (.error (.disk path e), c, d') := by
  have saving := c.saving d mode
  generalize c.save d mode = r at saving ⊢
  cases saving with
  | absent none =>
    rw [memory] at none
    cases none
  | failed _ path e => exact .inr (.inr ⟨path, e, _, rfl⟩)
  | refused _ _ opens =>
    have emptied := opens.emptied
    rw [housed_of_directory directory] at emptied
    exact .inr (.inl ⟨_, _, emptied, rfl⟩)
  | saved => exact .inl ⟨_, rfl⟩

/-- Saving takes no directory away and touches no other file, whatever comes of it. -/
theorem spares_save (c : LogCopy) (d : Disk) (mode : Option Mode) :
    d.Spares (c.save d mode).2.2 c.path := by
  have grown := (c.grown_housed d).spares c.path
  have saving := c.saving d mode
  generalize c.save d mode = r at saving ⊢
  cases saving with
  | absent => exact .refl d c.path
  | failed => exact grown
  | refused _ _ opens => exact grown.trans (Disk.spares_write opens.emptied)
  | saved _ _ opens filled =>
    exact (grown.trans (Disk.spares_write opens.emptied)).trans (Disk.spares_write filled)

/-- Saving a copy changes nothing in it but that there is a file of it. -/
theorem copy_save (c : LogCopy) (d : Disk) (mode : Option Mode) :
    (c.save d mode).2.1 = c ∨ (c.save d mode).2.1 = { c with stored := true } := by
  have saving := c.saving d mode
  generalize c.save d mode = r at saving ⊢
  cases saving with
  | absent => exact .inl rfl
  | failed => exact .inl rfl
  | refused => exact .inl rfl
  | saved => exact .inr rfl

/-- A log that has been saved has been written to its file. -/
theorem found_of_save {c' : LogCopy} {mode : Option Mode} (memory : c.memory = some log)
    (saved : c.save d mode = (.ok (), c', d')) :
    c' = { c with memory := some log, stored := true } ∧
      ∃ out, Codec.encode log (mode.getD (Codec.narrowest log)) .native = .ok out ∧
        d'.find c.path = .ok (.file out.toByteArray) := by
  have saving := c.saving d mode
  rw [saved] at saving
  cases saving with
  | saved same written _ filled =>
    obtain rfl := Option.some.inj (memory.symm.trans same)
    exact ⟨by rw [← memory], _, written, (Disk.wrote filled).written⟩

/-! ### Removing -/

theorem spares_dropFile (c : LogCopy) (d : Disk) : d.Spares (c.dropFile d).2.2 c.path := by
  rw [dropFile]
  split
  · next removed => exact Disk.spares_remove removed
  · exact .refl d c.path
  · exact .refl d c.path

/-- A file that is there is removed. -/
theorem exists_dropFile {bytes : ByteArray} (found : d.find c.path = .ok (.file bytes)) :
    ∃ d', d.remove c.path = .ok d' ∧ c.dropFile d = (.ok (), { c with stored := false }, d') := by
  obtain ⟨reaches, node⟩ := Disk.find_eq_ok.mp found
  have removed := Disk.remove_eq_ok.mpr ⟨reaches, ⟨bytes, node⟩, rfl⟩
  refine ⟨_, removed, ?_⟩
  rw [dropFile, removed]

/-! ### Reading -/

/-- A log is read from a file if the bytes there are those of the log that is expected. -/
theorem readFile_eq_ok :
    c.readFile d = .ok log ↔
      ∃ bytes, d.find c.path = .ok (.file bytes) ∧ Codec.decode bytes = .ok log ∧
        log.id = c.id := by
  rw [readFile, Except.bind_eq_ok]
  constructor
  · rintro ⟨node, found, h⟩
    rw [Except.mapError_eq_ok] at found
    rcases node with - | bytes
    · obtain ⟨-, h, -⟩ := Except.bind_eq_ok.mp h
      exact (Except.throw_ne_ok.mp h).elim
    · obtain ⟨back, read, h⟩ := Except.bind_eq_ok.mp h
      dsimp only at h
      by_cases same : back.id = c.id
      · rw [if_pos same, Except.pure_eq_ok] at h
        exact ⟨bytes, found, h ▸ Except.mapError_eq_ok.mp read, h ▸ same⟩
      · rw [if_neg same] at h
        exact (Except.throw_ne_ok.mp h).elim
  · rintro ⟨bytes, found, read, same⟩
    refine ⟨_, Except.mapError_eq_ok.mpr found, Except.bind_eq_ok.mpr
      ⟨log, Except.mapError_eq_ok.mpr read, ?_⟩⟩
    exact (if_pos same).trans (Except.pure_eq_ok.mpr rfl)

/-- Bytes that cannot be decoded are no log. -/
theorem readFile_of_refused {bytes : ByteArray} {cause : CodecError}
    (found : d.find c.path = .ok (.file bytes)) (refused : Codec.decode bytes = .error cause) :
    c.readFile d = .error (.codec c.path cause) := by
  rw [readFile, found]
  show ((Codec.decode bytes).mapError (StoreError.codec c.path) >>= _) = _
  rw [refused]
  rfl

end Scrollback.LogCopy
