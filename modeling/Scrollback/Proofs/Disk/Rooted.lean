/-
Disks on which whatever there is lies in a directory (`Disk.Rooted`).  Every disk made from files is
of this kind, and the operations keep it so.  There a file can be reached by its own path, so that
making directories neither hides a file nor brings one to light (`Disk.Rooted.find_file_iff`).
-/
import Scrollback.Disk.Snapshot
import Scrollback.Proofs.Disk.Frame

namespace Scrollback.Disk

variable {d d' : Disk} {path : String}

/-- Whatever there is lies in a directory. -/
def Rooted (d : Disk) : Prop :=
  ∀ (names : List String) (name : String) (n : Node),
    d.node? (names ++ [name]) = some n → d.node? names = some .directory

/-- Above anything that is there lie directories only. -/
theorem Rooted.above (h : d.Rooted) {names more : List String} {n : Node} (ne : more ≠ [])
    (there : d.node? (names ++ more) = some n) : d.node? names = some .directory := by
  induction more using List.reverseRecOn generalizing n with
  | nil => exact absurd rfl ne
  | append_singleton more name ih =>
    rw [← List.append_assoc] at there
    have parent := h _ _ _ there
    rcases eq_or_ne more [] with rfl | ne
    · rwa [List.append_nil] at parent
    · exact ih ne parent

/-! ### Files -/

/-- The way to something that is there can be gone, unless a name on it is too long. -/
theorem Rooted.walk (h : d.Rooted) {done names : List String} {n : Node}
    (walked : d'.walk done names = .ok ()) (there : d.node? (done ++ names) = some n) :
    d.walk done names = .ok () := by
  induction names generalizing done with
  | nil => rfl
  | cons name rest ih =>
    rw [Disk.walk] at walked ⊢
    split at walked
    · cases walked
    · next short =>
      rw [if_neg short]
      split at walked
      · next last => rw [if_pos last]
      · next more =>
        have ne : rest ≠ [] := fun none => more (by rw [none]; rfl)
        rw [← List.singleton_append, ← List.append_assoc] at there
        rw [if_neg more, h.above ne there]
        dsimp only
        split at walked
        · exact ih walked there
        · cases walked
        · cases walked

/-- Directories that have been made make no difference to the files. -/
theorem Rooted.find_file_iff (h : d.Rooted) (grown : d.Grown d') {bytes : ByteArray} :
    d'.find path = .ok (.file bytes) ↔ d.find path = .ok (.file bytes) := by
  constructor
  · intro found
    obtain ⟨reaches, node⟩ := find_eq_ok.mp found
    obtain ⟨nonempty, plain, short, walked⟩ := reaches_iff.mp reaches
    have node := grown.file_iff.mp node
    exact find_eq_ok.mpr ⟨reaches_iff.mpr ⟨nonempty, plain, short, h.walk walked node⟩, node⟩
  · exact grown.find

theorem isFile_empty (path : String) : empty.isFile path = false := by
  rw [Bool.eq_false_iff, Ne, isFile_iff]
  rintro ⟨bytes, found⟩
  exact node?_nil_ne_file _ _ (find_eq_ok.mp found).2

/-! ### Operations -/

/-- The way to a name leads through the directory above it. -/
theorem directory_of_walk {done names : List String} {name : String}
    (walked : d.walk done (names ++ [name]) = .ok ()) (start : d.node? done = some .directory) :
    d.node? (done ++ names) = some .directory := by
  induction names generalizing done with
  | nil => rwa [List.append_nil]
  | cons first rest ih =>
    rw [List.cons_append, Disk.walk] at walked
    split at walked
    · cases walked
    · rw [if_neg (by simp)] at walked
      split at walked
      · next step =>
        have := ih walked step
        rwa [List.append_assoc, List.singleton_append] at this
      · cases walked
      · cases walked

/-- Something is put into a directory, but not in the place of one. -/
theorem Rooted.setNode (h : d.Rooted) {names : List String} (n : Node)
    (walked : d.walk [] names = .ok ()) (free : d.node? names ≠ some .directory) :
    (d.setNode names n).Rooted := by
  have kept : ∀ {other}, d.node? other = some .directory →
      (d.setNode names n).node? other = some .directory := by
    intro other there
    rw [node?_setNode (not_isRoot free), if_neg, there]
    rintro rfl
    exact free there
  intro above name m there
  apply kept
  rw [node?_setNode (not_isRoot free)] at there
  split at there
  · next same =>
    rw [← same] at walked
    exact directory_of_walk walked rfl
  · exact h _ _ _ there

theorem Rooted.write (h : d.Rooted) {bytes : ByteArray} (written : d.write path bytes = .ok d') :
    d'.Rooted := by
  obtain ⟨reaches, free, rfl⟩ := write_eq_ok.mp written
  obtain ⟨-, -, -, walked⟩ := reaches_iff.mp reaches
  exact h.setNode _ walked free

/-- A file has nothing below it, so that it can be removed. -/
theorem Rooted.remove (h : d.Rooted) (removed : d.remove path = .ok d') : d'.Rooted := by
  intro above name n there
  rw [node?_remove removed] at there
  split at there
  · cases there
  · exact keeps_remove removed _ (h _ _ _ there)

theorem Rooted.ensureDirectory (h : d.Rooted) {names : List String}
    (made : d.ensureDirectory names = .ok d') : d'.Rooted := by
  unfold Disk.ensureDirectory at made
  rcases step : d.makeDirectory names with e | d''
  · simp only [step] at made
    split at made
    · cases made
      exact h
    · cases made
  · obtain rfl : d'' = d' := by simpa [step] using made
    obtain ⟨⟨⟩, walked, step⟩ := Except.bind_eq_ok.mp step
    rcases free : d.node? names with - | n
    · obtain rfl : d.setNode names .directory = d'' := by
        simpa [free, Except.pure_eq_ok] using step
      exact h.setNode _ walked (by simp [free])
    · simp [free, Except.throw_ne_ok] at step

theorem Rooted.makeUpwards (h : d.Rooted) (names : List String) :
    (d.makeUpwards names).2.Rooted := by
  induction names generalizing d with
  | nil => exact h
  | cons name above ih =>
    unfold Disk.makeUpwards
    split
    · next made => exact h.ensureDirectory made
    · -- the directory above comes first
      have inner := ih h
      split
      · next outer =>
        rw [outer] at inner
        exact inner
      · next outer =>
        rw [outer] at inner
        split
        · next made => exact inner.ensureDirectory made
        · exact inner
    · exact h

theorem Rooted.makeDirectories (h : d.Rooted) (path : String) :
    (d.makeDirectories path).2.Rooted := by
  unfold Disk.makeDirectories
  split
  · exact h
  · split
    · exact h
    · exact h.makeUpwards _

/-! ### Disks made from files -/

theorem rooted_empty : empty.Rooted := by
  intro names name n there
  by_cases root : IsRoot (names ++ [name])
  · rcases root with root | root
    · exact absurd root (by simp)
    · obtain ⟨rfl, -⟩ := List.append_eq_singleton_iff.mp root |>.resolve_right (by simp)
      rfl
  · rw [node?_of_not_isRoot root] at there
    cases there

theorem Rooted.plant (h : d.Rooted) (file : String × ByteArray) : (d.plant file).Rooted := by
  have made := h.makeDirectories ((Path.parent? file.1).getD "")
  rw [Disk.plant]
  rcases step : d.makeDirectories ((Path.parent? file.1).getD "") with ⟨r, d₁⟩
  rw [step] at made
  show Rooted ((d₁.write file.1 file.2).toOption.getD d₁)
  rcases written : d₁.write file.1 file.2 with e | d₂
  · exact made
  · exact made.write written

/-- A disk made from files is rooted. -/
theorem rooted_ofFiles (files : List (String × ByteArray)) : (ofFiles files).Rooted := by
  rw [ofFiles]
  generalize empty = start, rooted_empty = h
  induction files generalizing start with
  | nil => exact h
  | cons file files ih => exact ih _ (h.plant file)

end Scrollback.Disk
