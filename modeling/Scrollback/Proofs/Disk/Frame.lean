/-
What the operations of a disk change, and what they leave.  Writing and removing a file change what
lies at that one path (`Disk.wrote`, `Disk.node?_remove`), and making directories brings in
directories where there was nothing (`Disk.grown_makeDirectories`).  No operation takes a directory
away, so a path that could be followed can still be followed (`Disk.Reaches.mono`).
-/
import Mathlib
import Scrollback.Disk.Basic
import Scrollback.Proofs.Outcome

namespace Scrollback.Disk

variable {d d' : Disk} {path : String}

/-! ### Nodes -/

/-- The components are those of the place where all paths start. -/
def IsRoot (names : List String) : Prop :=
  names = [] ∨ names = ["/"]

theorem node?_of_isRoot {names : List String} (h : IsRoot names) :
    d.node? names = some .directory := by
  rcases h with rfl | rfl
  · rfl
  · rfl

theorem node?_of_not_isRoot {names : List String} (h : ¬IsRoot names) :
    d.node? names = d.nodes.lookup names := by
  rw [node?, if_neg]
  simpa [IsRoot] using h

/-- An empty disk has no files. -/
theorem node?_nil_ne_file (names : List String) (bytes : ByteArray) :
    (⟨[]⟩ : Disk).node? names ≠ some (.file bytes) := by
  by_cases root : IsRoot names
  · rw [node?_of_isRoot root]
    rintro ⟨⟩
  · rw [node?_of_not_isRoot root]
    rintro ⟨⟩

/-- What is put at some components is there, and nothing else has changed. -/
theorem node?_setNode {names : List String} (h : ¬IsRoot names) (n : Node) (other : List String) :
    (d.setNode names n).node? other = if other = names then some n else d.node? other := by
  by_cases root : IsRoot other
  · -- the root is there on every disk
    have ne : other ≠ names := by
      rintro rfl
      exact h root
    rw [if_neg ne, node?_of_isRoot root, node?_of_isRoot root]
  · rw [node?_of_not_isRoot root, node?_of_not_isRoot root, setNode, List.lookup_cons]
    by_cases same : other = names
    · rw [if_pos same, beq_iff_eq.mpr same]
    · rw [if_neg same, beq_eq_false_iff_ne.mpr same]
      show List.lookup other (d.nodes.filter fun e => e.1 ≠ names) = _
      exact List.lookup_filter_ne same

/-- Nothing is left where it has been removed, and nothing else has changed. -/
theorem node?_eraseNode {names : List String} (h : ¬IsRoot names) (other : List String) :
    (d.eraseNode names).node? other = if other = names then none else d.node? other := by
  by_cases root : IsRoot other
  · have ne : other ≠ names := by
      rintro rfl
      exact h root
    rw [if_neg ne, node?_of_isRoot root, node?_of_isRoot root]
  · rw [node?_of_not_isRoot root, node?_of_not_isRoot root, eraseNode]
    by_cases same : other = names
    · rw [if_pos same, same]
      exact List.lookup_filter_self d.nodes names
    · rw [if_neg same]
      exact List.lookup_filter_ne same

/-! ### Following paths -/

/-- The path can be followed up to its last component. -/
def Reaches (d : Disk) (path : String) : Prop :=
  d.locate path = .ok (Path.components path)

theorem locate_eq_ok {names : List String} :
    d.locate path = .ok names ↔ d.Reaches path ∧ names = Path.components path := by
  have only : d.locate path = .ok names → names = Path.components path := by
    intro h
    unfold locate at h
    split at h
    · cases h
    · split at h
      · cases h
      · split at h
        · cases h
        · obtain ⟨-, -, rfl⟩ := Except.map_eq_ok.mp h
          rfl
  constructor
  · intro h
    obtain rfl := only h
    exact ⟨h, rfl⟩
  · rintro ⟨h, rfl⟩
    exact h

/-- Every directory is still there. -/
def Keeps (d d' : Disk) : Prop :=
  ∀ names, d.node? names = some .directory → d'.node? names = some .directory

theorem Keeps.refl (d : Disk) : d.Keeps d := fun _ there => there

theorem Keeps.trans {d'' : Disk} (h : d.Keeps d') (h' : d'.Keeps d'') : d.Keeps d'' :=
  fun names there => h' names (h names there)

theorem walk_mono (h : d.Keeps d') {names done : List String}
    (walked : d.walk done names = .ok ()) : d'.walk done names = .ok () := by
  induction names generalizing done with
  | nil => rfl
  | cons name rest ih =>
    unfold walk at walked ⊢
    split at walked
    · cases walked
    · next short =>
      rw [if_neg short]
      split at walked
      · next last => rw [if_pos last]
      · next more =>
        rw [if_neg more]
        rcases step : d.node? (done ++ [name]) with - | - | bytes
        · simp [step] at walked
        · rw [step] at walked
          rw [h _ step]
          exact ih walked
        · simp [step] at walked

/-- A path can be followed if it is well formed and its directories are there. -/
theorem reaches_iff :
    d.Reaches path ↔ path ≠ "" ∧ '\x00' ∉ path.toList ∧ path.utf8ByteSize ≤ maxPath ∧
      d.walk [] (Path.components path) = .ok () := by
  have empty : path.isEmpty = true ↔ path = "" := by simp
  have zero : path.contains '\x00' = true ↔ '\x00' ∈ path.toList := by
    rw [String.contains_char_eq, decide_eq_true_iff]
  unfold Reaches locate
  split
  · next none => simp [empty.mp none]
  · next some =>
    split
    · next inside => simp [zero.mp inside]
    · next plain =>
      split
      · next long => simp [Nat.not_le.mpr long]
      · next short =>
        rw [Except.map_eq_ok]
        constructor
        · rintro ⟨_, walked, -⟩
          exact ⟨mt empty.mpr some, mt zero.mpr plain, Nat.not_lt.mp short, walked⟩
        · rintro ⟨-, -, -, walked⟩
          exact ⟨(), walked, rfl⟩

theorem Reaches.mono (reaches : d.Reaches path) (h : d.Keeps d') : d'.Reaches path := by
  obtain ⟨nonempty, plain, short, walked⟩ := reaches_iff.mp reaches
  exact reaches_iff.mpr ⟨nonempty, plain, short, walk_mono h walked⟩

/-! ### Finding, writing and removing -/

theorem find_eq_ok {n : Node} :
    d.find path = .ok n ↔ d.Reaches path ∧ d.node? (Path.components path) = some n := by
  rw [find, Except.bind_eq_ok]
  constructor
  · rintro ⟨names, located, found⟩
    obtain ⟨reaches, rfl⟩ := locate_eq_ok.mp located
    refine ⟨reaches, ?_⟩
    rcases node : d.node? (Path.components path) with - | m
    · simp [node, Except.throw_ne_ok] at found
    · simpa [node, Except.pure_eq_ok] using found
  · rintro ⟨reaches, node⟩
    refine ⟨_, reaches, ?_⟩
    simp [node, Except.pure_eq_ok]

theorem find_of_missing (reaches : d.Reaches path)
    (missing : d.node? (Path.components path) = none) : d.find path = .error .notFound := by
  have located : d.locate path = .ok (Path.components path) := reaches
  simp only [find, located, bind, Except.bind, missing]
  rfl

/-- What is read is what a file holds. -/
theorem find_of_read {bytes : ByteArray} (h : d.read path = .ok bytes) :
    d.find path = .ok (.file bytes) := by
  obtain ⟨node, found, held⟩ := Except.bind_eq_ok.mp h
  rcases node with - | held'
  · exact (Except.throw_ne_ok.mp held).elim
  · rw [found, Except.pure_eq_ok.mp held]

theorem isFile_iff : d.isFile path = true ↔ ∃ bytes, d.find path = .ok (.file bytes) := by
  rw [isFile]
  rcases d.find path with e | - | bytes
  · simp
  · simp
  · simp

/-- Where the files are the same, so is the answer whether there is one. -/
theorem isFile_congr
    (same : ∀ bytes, d'.find path = .ok (.file bytes) ↔ d.find path = .ok (.file bytes)) :
    d'.isFile path = d.isFile path := by
  rw [Bool.eq_iff_iff, isFile_iff, isFile_iff]
  exact exists_congr same

theorem write_eq_ok {bytes : ByteArray} :
    d.write path bytes = .ok d' ↔ d.Reaches path ∧
      d.node? (Path.components path) ≠ some .directory ∧
      d.setNode (Path.components path) (.file bytes) = d' := by
  rw [write, Except.map_eq_ok]
  constructor
  · rintro ⟨names, placed, rfl⟩
    obtain ⟨_, located, placed⟩ := Except.bind_eq_ok.mp placed
    obtain ⟨reaches, rfl⟩ := locate_eq_ok.mp located
    rcases node : d.node? (Path.components path) with - | - | old
    · obtain rfl : Path.components path = names := by simpa [node, Except.pure_eq_ok] using placed
      exact ⟨reaches, by simp, rfl⟩
    · simp [node, Except.throw_ne_ok] at placed
    · obtain rfl : Path.components path = names := by simpa [node, Except.pure_eq_ok] using placed
      exact ⟨reaches, by simp, rfl⟩
  · rintro ⟨reaches, free, rfl⟩
    refine ⟨_, Except.bind_eq_ok.mpr ⟨_, reaches, ?_⟩, rfl⟩
    rcases node : d.node? (Path.components path) with - | - | old
    · simp [Except.pure_eq_ok]
    · exact absurd node free
    · simp [Except.pure_eq_ok]

theorem remove_eq_ok :
    d.remove path = .ok d' ↔ d.Reaches path ∧
      (∃ bytes, d.node? (Path.components path) = some (.file bytes)) ∧
      d.eraseNode (Path.components path) = d' := by
  rw [remove, Except.bind_eq_ok]
  constructor
  · rintro ⟨names, located, removed⟩
    obtain ⟨reaches, rfl⟩ := locate_eq_ok.mp located
    rcases node : d.node? (Path.components path) with - | - | old
    · simp [node, Except.throw_ne_ok] at removed
    · simp [node, Except.throw_ne_ok] at removed
    · exact ⟨reaches, ⟨old, rfl⟩, by simpa [node, Except.pure_eq_ok] using removed⟩
  · rintro ⟨reaches, ⟨old, node⟩, rfl⟩
    refine ⟨_, reaches, ?_⟩
    simp [node, Except.pure_eq_ok]

/-- The place where all paths start is no place for a file. -/
theorem not_isRoot {names : List String} (h : d.node? names ≠ some .directory) : ¬IsRoot names :=
  fun root => h (node?_of_isRoot root)

/-- Writing a file changes nothing else. -/
theorem node?_write {bytes : ByteArray} (h : d.write path bytes = .ok d') (names : List String) :
    d'.node? names =
      if names = Path.components path then some (.file bytes) else d.node? names := by
  obtain ⟨-, free, rfl⟩ := write_eq_ok.mp h
  exact node?_setNode (not_isRoot free) _ names

/-- Removing a file changes nothing else. -/
theorem node?_remove (h : d.remove path = .ok d') (names : List String) :
    d'.node? names = if names = Path.components path then none else d.node? names := by
  obtain ⟨-, ⟨old, node⟩, rfl⟩ := remove_eq_ok.mp h
  exact node?_eraseNode (@not_isRoot d _ (by simp [node])) names

theorem keeps_write {bytes : ByteArray} (h : d.write path bytes = .ok d') : d.Keeps d' := by
  intro names directory
  obtain ⟨-, free, -⟩ := write_eq_ok.mp h
  rw [node?_write h, if_neg, directory]
  rintro rfl
  exact free directory

theorem keeps_remove (h : d.remove path = .ok d') : d.Keeps d' := by
  intro names directory
  obtain ⟨-, ⟨old, node⟩, -⟩ := remove_eq_ok.mp h
  rw [node?_remove h, if_neg, directory]
  rintro rfl
  rw [directory] at node
  cases node

/-- A file that has been written can be written again. -/
theorem exists_write_again {bytes : ByteArray} (h : d.write path bytes = .ok d')
    (more : ByteArray) : ∃ d'', d'.write path more = .ok d'' := by
  have free : d'.node? (Path.components path) ≠ some .directory := by
    rw [node?_write h, if_pos rfl]
    rintro ⟨⟩
  exact ⟨_, write_eq_ok.mpr ⟨(write_eq_ok.mp h).1.mono (keeps_write h), free, rfl⟩⟩

theorem find_remove_of_ne {other : String} {n : Node} (h : d.remove path = .ok d')
    (ne : Path.components other ≠ Path.components path) (found : d.find other = .ok n) :
    d'.find other = .ok n := by
  obtain ⟨reaches, node⟩ := find_eq_ok.mp found
  refine find_eq_ok.mpr ⟨reaches.mono (keeps_remove h), ?_⟩
  rw [node?_remove h, if_neg ne, node]

theorem remove_of_directory (reaches : d.Reaches path)
    (there : d.node? (Path.components path) = some .directory) :
    d.remove path = .error .isDirectory := by
  have located : d.locate path = .ok (Path.components path) := reaches
  simp only [remove, located, bind, Except.bind, there]
  rfl

/-- A file has been removed, or was missing. -/
def Dropped (d d' : Disk) (path : String) : Prop :=
  d.remove path = .ok d' ∨ d.remove path = .error .notFound ∧ d' = d

theorem Dropped.others (h : d.Dropped d' path) {names : List String}
    (ne : names ≠ Path.components path) : d'.node? names = d.node? names := by
  rcases h with removed | ⟨-, rfl⟩
  · rw [node?_remove removed, if_neg ne]
  · rfl

theorem Dropped.gone (h : d.Dropped d' path) (bytes : ByteArray) :
    d'.find path ≠ .ok (.file bytes) := by
  intro found
  obtain ⟨reaches, node⟩ := find_eq_ok.mp found
  rcases h with removed | ⟨missing, rfl⟩
  · rw [node?_remove removed, if_pos rfl] at node
    cases node
  · -- a file that is there would have been removed
    have removed := remove_eq_ok.mpr ⟨reaches, ⟨bytes, node⟩, rfl⟩
    cases missing.symm.trans removed

theorem not_dropped (blocked : d.remove path = .error .isDirectory) : ¬d.Dropped d' path := by
  rintro (removed | ⟨missing, -⟩)
  · cases blocked.symm.trans removed
  · cases blocked.symm.trans missing

/-! ### Making directories -/

/-- There may be new directories, where there was nothing before. -/
def Grown (d d' : Disk) : Prop :=
  ∀ names, d'.node? names = d.node? names ∨
    d.node? names = none ∧ d'.node? names = some .directory

theorem Grown.refl (d : Disk) : d.Grown d := fun _ => .inl rfl

theorem Grown.trans {d'' : Disk} (h : d.Grown d') (h' : d'.Grown d'') : d.Grown d'' := by
  intro names
  rcases h' names with same' | ⟨none', made'⟩
  · rw [same']
    exact h names
  · rcases h names with same | ⟨-, made⟩
    · exact .inr ⟨same ▸ none', made'⟩
    · rw [made] at none'
      cases none'

/-- What was there is there. -/
theorem Grown.node? (h : d.Grown d') {names : List String} {n : Node}
    (node : d.node? names = some n) : d'.node? names = some n := by
  rcases h names with same | ⟨none, -⟩
  · rw [same, node]
  · rw [node] at none
    cases none

theorem Grown.keeps (h : d.Grown d') : d.Keeps d' := fun _ => h.node?

theorem Grown.find (h : d.Grown d') {n : Node} (found : d.find path = .ok n) :
    d'.find path = .ok n := by
  obtain ⟨reaches, node⟩ := find_eq_ok.mp found
  exact find_eq_ok.mpr ⟨reaches.mono h.keeps, h.node? node⟩

/-- The files are the same. -/
theorem Grown.file_iff (h : d.Grown d') {names : List String} {bytes : ByteArray} :
    d'.node? names = some (.file bytes) ↔ d.node? names = some (.file bytes) := by
  constructor
  · intro node
    rcases h names with same | ⟨-, made⟩
    · rw [← same, node]
    · rw [made] at node
      cases node
  · exact h.node?

theorem grown_ensureDirectory {names : List String} (h : d.ensureDirectory names = .ok d') :
    d.Grown d' := by
  unfold ensureDirectory at h
  rcases made : d.makeDirectory names with e | d''
  · -- a failure is passed over only where a directory is there already
    simp only [made] at h
    split at h
    · cases h
      exact .refl d
    · cases h
  · obtain rfl : d'' = d' := by simpa [made] using h
    obtain ⟨-, -, made⟩ := Except.bind_eq_ok.mp made
    rcases free : d.node? names with - | n
    · simp only [free, Except.pure_eq_ok] at made
      subst made
      intro other
      rw [node?_setNode (@not_isRoot d _ (by simp [free]))]
      split
      · next same => exact .inr ⟨same ▸ free, rfl⟩
      · exact .inl rfl
    · simp [free, Except.throw_ne_ok] at made

theorem grown_makeUpwards (d : Disk) (names : List String) : d.Grown (d.makeUpwards names).2 := by
  induction names generalizing d with
  | nil => exact .refl d
  | cons name above ih =>
    unfold makeUpwards
    split
    · next made => exact grown_ensureDirectory made
    · -- the directory above was missing, so it comes first
      have inner := ih d
      split
      · next outer =>
        rw [outer] at inner
        exact inner
      · next outer =>
        rw [outer] at inner
        split
        · next made => exact inner.trans (grown_ensureDirectory made)
        · exact inner
    · exact .refl d

/-- Making directories leaves everything that is there, whether it succeeds or not. -/
theorem grown_makeDirectories (d : Disk) (path : String) : d.Grown (d.makeDirectories path).2 := by
  unfold makeDirectories
  split
  · exact .refl d
  · split
    · exact .refl d
    · exact grown_makeUpwards d _

theorem ensureDirectory_of_directory {names : List String}
    (directory : d.node? names = some .directory) : d.ensureDirectory names = .ok d := by
  rw [ensureDirectory]
  rcases step : d.makeDirectory names with e | d'
  · simp [directory, Node.isDirectory]
  · obtain ⟨-, -, step⟩ := Except.bind_eq_ok.mp step
    simp [directory, Except.throw_ne_ok] at step

/-- Where a directory is there, nothing is made. -/
theorem makeUpwards_of_directory {names : List String}
    (directory : d.node? names.reverse = some .directory) : d.makeUpwards names = (.ok (), d) := by
  rcases names with - | ⟨name, above⟩
  · rfl
  · rw [makeUpwards, ensureDirectory_of_directory directory]

/-- Making a directory that is there only looks at the text of its path. -/
theorem makeDirectories_eq_of_directory
    (directory : d.node? (Path.components path) = some .directory) :
    d.makeDirectories path =
      (if path.contains '\x00' then .error .zeroInName
        else if maxPath < path.utf8ByteSize then .error .nameTooLong else .ok (), d) := by
  rw [makeDirectories]
  split
  · rfl
  · split
    · rfl
    · exact makeUpwards_of_directory (by rw [List.reverse_reverse, directory])

/-- A directory that is there need not be made. -/
theorem makeDirectories_of_directory (plain : '\x00' ∉ path.toList)
    (short : path.utf8ByteSize ≤ maxPath)
    (directory : d.node? (Path.components path) = some .directory) :
    d.makeDirectories path = (.ok (), d) := by
  rw [makeDirectories_eq_of_directory directory, String.contains_char_eq,
    if_neg (by simpa using plain), if_neg (Nat.not_lt.mpr short)]

theorem directory_of_ensureDirectory {names : List String}
    (h : d.ensureDirectory names = .ok d') : d'.node? names = some .directory := by
  unfold ensureDirectory at h
  rcases made : d.makeDirectory names with e | d''
  · simp only [made] at h
    split at h
    · next there =>
      cases h
      rcases node : d.node? names with - | - | bytes
      · simp [node] at there
      · rfl
      · simp [node, Node.isDirectory] at there
    · cases h
  · obtain rfl : d'' = d' := by simpa [made] using h
    obtain ⟨-, -, made⟩ := Except.bind_eq_ok.mp made
    rcases free : d.node? names with - | n
    · simp only [free, Except.pure_eq_ok] at made
      subst made
      rw [node?_setNode (@not_isRoot d _ (by simp [free])), if_pos rfl]
    · simp [free, Except.throw_ne_ok] at made

/-- A directory that has been made is there. -/
theorem directory_of_makeDirectories (h : d.makeDirectories path = (.ok (), d')) :
    d'.node? (Path.components path) = some .directory := by
  unfold makeDirectories at h
  split at h
  · cases h
  · split at h
    · cases h
    · rcases names : (Path.components path).reverse with - | ⟨name, above⟩
      · rw [List.reverse_eq_nil_iff.mp names]
        rfl
      · rw [names] at h
        rw [← List.reverse_reverse (Path.components path), names]
        unfold makeUpwards at h
        split at h
        · next made =>
          cases h
          exact directory_of_ensureDirectory made
        · split at h
          · cases h
          · split at h
            · next made =>
              cases h
              exact directory_of_ensureDirectory made
            · cases h
        · cases h

/-! ### Disks that are the same -/

/-- The same lies everywhere. -/
def Same (d d' : Disk) : Prop :=
  ∀ names, d'.node? names = d.node? names

theorem Same.walk (h : d.Same d') (done names : List String) :
    d'.walk done names = d.walk done names := by
  induction names generalizing done with
  | nil => rfl
  | cons name rest ih =>
    rw [Disk.walk, Disk.walk, h]
    simp only [ih]

theorem Same.find (h : d.Same d') (path : String) : d'.find path = d.find path := by
  have located : d'.locate path = d.locate path := by
    rw [locate, locate]
    simp only [h.walk]
  simp only [Disk.find, located, h _]

theorem Same.read (h : d.Same d') (path : String) : d'.read path = d.read path := by
  rw [Disk.read, Disk.read, h.find]

theorem Same.isFile (h : d.Same d') (path : String) : d'.isFile path = d.isFile path := by
  rw [Disk.isFile, Disk.isFile, h.find]

/-! ### Everything but one file -/

/-- No directory has been taken away, and elsewhere than at one path the files are the same. -/
structure Spares (d d' : Disk) (path : String) : Prop where
  keeps : d.Keeps d'
  file_iff : ∀ {names : List String} {b : ByteArray}, names ≠ Path.components path →
    (d'.node? names = some (.file b) ↔ d.node? names = some (.file b))

theorem Spares.refl (d : Disk) (path : String) : d.Spares d path := ⟨.refl d, fun _ => Iff.rfl⟩

theorem Spares.trans {d₁ : Disk} (h : d.Spares d₁ path) (h' : d₁.Spares d' path) :
    d.Spares d' path where
  keeps := h.keeps.trans h'.keeps
  file_iff := fun ne => (h'.file_iff ne).trans (h.file_iff ne)

theorem Spares.find {other : String} {b : ByteArray} (h : d.Spares d' path)
    (ne : Path.components other ≠ Path.components path) (found : d.find other = .ok (.file b)) :
    d'.find other = .ok (.file b) := by
  obtain ⟨reaches, node⟩ := find_eq_ok.mp found
  exact find_eq_ok.mpr ⟨reaches.mono h.keeps, (h.file_iff ne).mpr node⟩

theorem Grown.spares (h : d.Grown d') (path : String) : d.Spares d' path :=
  ⟨h.keeps, fun _ => h.file_iff⟩

theorem spares_write {b : ByteArray} (h : d.write path b = .ok d') : d.Spares d' path where
  keeps := keeps_write h
  file_iff := by
    intro names b ne
    rw [node?_write h, if_neg ne]

theorem spares_remove (h : d.remove path = .ok d') : d.Spares d' path where
  keeps := keeps_remove h
  file_iff := by
    intro names b ne
    rw [node?_remove h, if_neg ne]

/-! ### A file that is written -/

/-- A file has been written; otherwise there may be new directories. -/
structure Wrote (d d' : Disk) (path : String) (bytes : ByteArray) : Prop where
  written : d'.find path = .ok (.file bytes)
  others : ∀ {other : String} {n : Node}, Path.components other ≠ Path.components path →
    d.find other = .ok n → d'.find other = .ok n
  files : ∀ {names : List String} {b : ByteArray}, names ≠ Path.components path →
    d'.node? names = some (.file b) → d.node? names = some (.file b)

variable {bytes : ByteArray}

theorem wrote (h : d.write path bytes = .ok d') : d.Wrote d' path bytes where
  written := by
    refine find_eq_ok.mpr ⟨(write_eq_ok.mp h).1.mono (keeps_write h), ?_⟩
    rw [node?_write h, if_pos rfl]
  others := by
    intro other n ne found
    obtain ⟨reaches, node⟩ := find_eq_ok.mp found
    refine find_eq_ok.mpr ⟨reaches.mono (keeps_write h), ?_⟩
    rw [node?_write h, if_neg ne, node]
  files := by
    intro names b ne node
    rwa [node?_write h, if_neg ne] at node

theorem Grown.wrote {d₁ : Disk} (h : d.Grown d₁) (h' : d₁.Wrote d' path bytes) :
    d.Wrote d' path bytes where
  written := h'.written
  others := fun ne found => h'.others ne (h.find found)
  files := fun ne node => h.file_iff.mp (h'.files ne node)

/-- A file that is written twice has been written. -/
theorem Wrote.trans {d₁ : Disk} {old : ByteArray} (h : d.Wrote d₁ path old)
    (h' : d₁.Wrote d' path bytes) : d.Wrote d' path bytes where
  written := h'.written
  others := fun ne found => h'.others ne (h.others ne found)
  files := fun ne node => h.files ne (h'.files ne node)

end Scrollback.Disk
