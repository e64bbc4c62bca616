/-
What a copy says of its file.  A copy is made, then it is loaded, saved and dropped in any order,
and nothing else touches its file.  A step that fails leaves the copy as it was, and the file too,
unless the codec has refused a log, whose file is empty then.  So the copy knows rightly whether
there is a file until a log is refused that had none (`LogCopy.truthful_iff`); from then on there is
an empty file that it overlooks (`LogCopy.Overlooks`), until a log is saved or the file dropped.
-/
import Scrollback.Proofs.Disk.Rooted
import Scrollback.Proofs.Store.Copy

namespace Scrollback.LogCopy

/-! ### Steps -/

/-- What is done with a copy. -/
inductive Op where
  | load
  | save (mode : Option Mode)
  | dropMemory
  | dropFile

/-- Whether it succeeds, and the copy and the disk afterwards. -/
def Op.run (c : LogCopy) (d : Disk) : Op → Except StoreError Unit × LogCopy × Disk
  | load => ((c.load d).1.map fun _ => (), (c.load d).2, d)
  | save mode => c.save d mode
  | dropMemory => (.ok (), c.dropMemory, d)
  | dropFile => c.dropFile d

/-- The codec does not take the log that is to be saved. -/
def Op.Refused (c : LogCopy) (d : Disk) : Op → Prop
  | save mode => ∃ cause, (c.save d mode).1 = .error (.codec c.path cause)
  | _ => False

/-- The copy and the disk after some steps. -/
def runAll (c : LogCopy) (d : Disk) : List Op → LogCopy × Disk
  | [] => (c, d)
  | op :: ops => runAll (op.run c d).2.1 (op.run c d).2.2 ops

/-- In none of some steps the codec refuses a log. -/
def Unrefused (c : LogCopy) (d : Disk) : List Op → Prop
  | [] => True
  | op :: ops => ¬op.Refused c d ∧ Unrefused (op.run c d).2.1 (op.run c d).2.2 ops

/-- The copy has just been made, with a log or without. -/
def Made (c : LogCopy) (d : Disk) : Prop :=
  (∃ id path, c = ofFile d id path) ∨ ∃ log path, c = ofLog d log path

/-- The copy says rightly whether there is a file. -/
def Truthful (c : LogCopy) (d : Disk) : Prop :=
  c.stored = d.isFile c.path

/-- The copy says that there is no file, but there is an empty one. -/
structure Overlooks (c : LogCopy) (d : Disk) : Prop where
  stored : c.stored = false
  emptied : d.find c.path = .ok (.file .empty)

variable {c c' c₁ c₂ : LogCopy} {d d' d₁ d₂ : Disk} {path : String}

theorem Made.truthful (h : Made c d) : Truthful c d := by
  rcases h with ⟨id, path, rfl⟩ | ⟨log, path, rfl⟩
  · rfl
  · rfl

theorem Overlooks.not_truthful (h : Overlooks c d) : ¬Truthful c d := by
  intro truthful
  have there : d.isFile c.path = true := Disk.isFile_iff.mpr ⟨_, h.emptied⟩
  rw [Truthful, h.stored, there] at truthful
  cases truthful

/-! ### What a step does -/

/-- The same file is there, if any. -/
def SameFile (d d' : Disk) (path : String) : Prop :=
  ∀ bytes, d'.find path = .ok (.file bytes) ↔ d.find path = .ok (.file bytes)

/-- What can come of a step: it fails, the file empty now or as it was, or it succeeds and either
does nothing to the file or knows what it has done. -/
inductive Op.Effect (op : Op) (c : LogCopy) (d : Disk) :
    Except StoreError Unit × LogCopy × Disk → Prop
  | refused {d' : Disk} (e : StoreError) (refused : op.Refused c d)
    (emptied : d'.find c.path = .ok (.file .empty)) : Effect op c d (.error e, c, d')
  | failed {d' : Disk} (e : StoreError) (taken : ¬op.Refused c d) (same : SameFile d d' c.path) :
    Effect op c d (.error e, c, d')
  | idle {c' : LogCopy} (taken : ¬op.Refused c d) (path : c'.path = c.path)
    (stored : c'.stored = c.stored) : Effect op c d (.ok (), c', d)
  | settled {c' : LogCopy} {d' : Disk} (taken : ¬op.Refused c d) (path : c'.path = c.path)
    (truthful : Truthful c' d') : Effect op c d (.ok (), c', d')

theorem effect_load (c : LogCopy) (d : Disk) : Op.load.Effect c d (Op.load.run c d) := by
  rw [Op.run, load]
  rcases c.memory with - | log
  · dsimp only
    rcases read : c.readFile d with e | log
    · exact .failed e not_false fun _ => Iff.rfl
    · obtain ⟨bytes, found, -⟩ := readFile_eq_ok.mp read
      exact .settled not_false rfl (Disk.isFile_iff.mpr ⟨bytes, found⟩).symm
  · exact .idle not_false rfl rfl

theorem effect_save (rooted : d.Rooted) (c : LogCopy) (mode : Option Mode) :
    (Op.save mode).Effect c d ((Op.save mode).run c d) := by
  rw [Op.run]
  have saving := c.saving d mode
  rcases answer : c.save d mode with ⟨r, c', d'⟩
  rw [answer] at saving
  have taken : (∀ cause, r ≠ .error (.codec c.path cause)) → ¬(Op.save mode).Refused c d := by
    rintro other ⟨cause, refused⟩
    rw [answer] at refused
    exact other cause refused
  cases saving with
  | absent => exact .failed _ (taken (by rintro _ ⟨⟩)) fun _ => Iff.rfl
  | failed =>
    exact .failed _ (taken (by rintro _ ⟨⟩)) fun _ => rooted.find_file_iff (c.grown_housed d)
  | refused _ _ opens =>
    exact .refused _ ⟨_, congrArg Prod.fst answer⟩ (Disk.wrote opens.emptied).written
  | saved _ _ _ filled =>
    have there := Disk.isFile_iff.mpr ⟨_, (Disk.wrote filled).written⟩
    exact .settled (taken (by rintro _ ⟨⟩)) rfl there.symm

/-- A file that has been dropped is not there. -/
theorem truthful_of_dropped (h : d.Dropped d' c.path) : Truthful { c with stored := false } d' := by
  refine (Bool.eq_false_iff.mpr fun there => ?_).symm
  obtain ⟨bytes, found⟩ := Disk.isFile_iff.mp there
  exact h.gone bytes found

theorem effect_dropFile (c : LogCopy) (d : Disk) :
    Op.dropFile.Effect c d (Op.dropFile.run c d) := by
  rw [Op.run, dropFile]
  split
  · next removed => exact .settled not_false rfl (truthful_of_dropped (.inl removed))
  · next missing => exact .settled not_false rfl (truthful_of_dropped (.inr ⟨missing, rfl⟩))
  · exact .failed _ not_false fun _ => Iff.rfl

/-- What can come of any step. -/
theorem Op.effect (rooted : d.Rooted) (op : Op) (c : LogCopy) : op.Effect c d (op.run c d) := by
  cases op with
  | load => exact effect_load c d
  | save mode => exact effect_save rooted c mode
  | dropMemory => exact .idle not_false rfl rfl
  | dropFile => exact effect_dropFile c d

/-- No step takes a file out of its directory. -/
theorem Op.rooted_run (rooted : d.Rooted) (op : Op) (c : LogCopy) : (op.run c d).2.2.Rooted := by
  cases op with
  | load => exact rooted
  | save mode =>
    have housed : (c.housed d).Rooted := rooted.makeDirectories _
    have saving := c.saving d mode
    rw [run]
    generalize c.save d mode = r at saving ⊢
    cases saving with
    | absent => exact rooted
    | failed => exact housed
    | refused _ _ opens => exact housed.write opens.emptied
    | saved _ _ opens filled => exact (housed.write opens.emptied).write filled
  | dropMemory => exact rooted
  | dropFile =>
    rw [run, LogCopy.dropFile]
    split
    · next removed => exact rooted.remove removed
    · exact rooted
    · exact rooted

/-! ### What is known after a step -/

variable {op : Op} {r : Except StoreError Unit}

theorem Op.Effect.path_eq (h : op.Effect c d (r, c', d')) : c'.path = c.path := by
  cases h with
  | refused => rfl
  | failed => rfl
  | idle _ path => exact path
  | settled _ path => exact path

/-- A copy that knows rightly whether there is a file keeps knowing it, unless a log is refused that
had none. -/
theorem Op.Effect.stays_truthful (h : op.Effect c d (r, c', d')) (truthful : Truthful c d) :
    Truthful c' d' ↔ ¬(op.Refused c d ∧ c.stored = false) := by
  cases h with
  | refused e refused emptied =>
    have there : d'.isFile c.path = true := Disk.isFile_iff.mpr ⟨_, emptied⟩
    rw [Truthful, there, and_iff_right refused, Bool.not_eq_false]
  | failed e taken same =>
    refine iff_of_true ?_ fun both => taken both.1
    rw [Truthful, Disk.isFile_congr same]
    exact truthful
  | idle taken path stored =>
    refine iff_of_true ?_ fun both => taken both.1
    rw [Truthful, path, stored]
    exact truthful
  | settled taken _ still => exact iff_of_true still fun both => taken both.1

/-- If a copy is wrong about its file, it overlooks an empty one. -/
theorem Op.Effect.truthful_or (h : op.Effect c d (r, c', d'))
    (known : Truthful c d ∨ Overlooks c d) : Truthful c' d' ∨ Overlooks c' d' := by
  rcases known with truthful | ⟨stored, emptied⟩
  · by_cases lost : op.Refused c d ∧ c.stored = false
    · cases h with
      | refused e _ emptied => exact .inr ⟨lost.2, emptied⟩
      | failed e taken => exact absurd lost.1 taken
      | idle taken => exact absurd lost.1 taken
      | settled taken => exact absurd lost.1 taken
    · exact .inl ((h.stays_truthful truthful).mpr lost)
  · cases h with
    | refused e _ emptied' => exact .inr ⟨stored, emptied'⟩
    | failed e _ same => exact .inr ⟨stored, (same _).mpr emptied⟩
    | idle _ path same => exact .inr ⟨same.trans stored, path ▸ emptied⟩
    | settled _ _ truthful => exact .inl truthful

/-- A step that fails leaves the copy, and what is in the file unless a log is refused. -/
theorem Op.Effect.of_error {e : StoreError} (h : op.Effect c d (.error e, c', d')) :
    c' = c ∧ (SameFile d d' c.path ↔ ¬op.Refused c d ∨ d.find c.path = .ok (.file .empty)) := by
  cases h with
  | refused _ refused emptied =>
    refine ⟨rfl, fun same => .inr ((same _).mp emptied), fun either bytes => ?_⟩
    rw [emptied, either.resolve_left (not_not_intro refused)]
  | failed _ taken same => exact ⟨rfl, fun _ => .inl taken, fun _ => same⟩

/-- What is known after some steps. -/
theorem runAll_known (rooted : d.Rooted) (known : Truthful c d ∨ Overlooks c d) (ops : List Op) :
    (c.runAll d ops).1.path = c.path ∧ (c.runAll d ops).2.Rooted ∧
      (Truthful (c.runAll d ops).1 (c.runAll d ops).2 ∨
        Overlooks (c.runAll d ops).1 (c.runAll d ops).2) ∧
      (Truthful c d → c.Unrefused d ops → Truthful (c.runAll d ops).1 (c.runAll d ops).2) := by
  induction ops generalizing c d with
  | nil => exact ⟨rfl, rooted, known, fun truthful _ => truthful⟩
  | cons op ops ih =>
    have effect := op.effect rooted c
    obtain ⟨path, rooted, known, stays⟩ := ih (op.rooted_run rooted c) (effect.truthful_or known)
    refine ⟨path.trans effect.path_eq, rooted, known, fun truthful unrefused => ?_⟩
    exact stays ((effect.stays_truthful truthful).mpr fun both => unrefused.1 both.1) unrefused.2

/-- A copy is made and taken through some steps, and then through one more.  Until a log is refused
that had no file the copy knows rightly whether there is one, and if it does not, there is an empty
file that it overlooks.  Dropping the log leaves the disk, dropping the file the log.  A step that
fails leaves the copy; it leaves what is in the file as well, unless a log is refused, whose file is
empty then. -/
theorem truthful_iff (rooted : d.Rooted) (made : Made c d) {ops : List Op}
    (before : c.runAll d ops = (c₁, d₁)) (step : op.run c₁ d₁ = (r, c₂, d₂)) :
    (c₁.path = c.path ∧ c₂.path = c.path) ∧
    (¬Truthful c₁ d₁ ↔ Overlooks c₁ d₁) ∧
    (c.Unrefused d ops → Truthful c₁ d₁) ∧
    (Truthful c₁ d₁ → (Truthful c₂ d₂ ↔ ¬(op.Refused c₁ d₁ ∧ c₁.stored = false))) ∧
    (op = .dropMemory → d₂ = d₁) ∧
    (op = .dropFile → c₂.memory = c₁.memory) ∧
    (∀ e, r = .error e → c₂ = c₁ ∧ (SameFile d₁ d₂ c.path ↔
      ¬op.Refused c₁ d₁ ∨ d₁.find c.path = .ok (.file .empty))) ∧
    (op.Refused c₁ d₁ → d₂.find c.path = .ok (.file .empty)) := by
  obtain ⟨path, rooted, known, stays⟩ := runAll_known rooted (.inl made.truthful) ops
  rw [before] at path rooted known stays
  have effect := op.effect rooted c₁
  rw [step] at effect
  rw [← path]
  refine ⟨⟨rfl, effect.path_eq⟩, ⟨known.resolve_left, Overlooks.not_truthful⟩,
    stays made.truthful, effect.stays_truthful, ?_, ?_, ?_, ?_⟩
  · rintro rfl
    cases step
    rfl
  · rintro rfl
    rw [Op.run, dropFile] at step
    split at step
    all_goals
      cases step
      rfl
  · rintro e rfl
    exact effect.of_error
  · intro refused
    cases effect with
    | refused _ _ emptied => exact emptied
    | failed _ taken => exact absurd refused taken
    | idle taken => exact absurd refused taken
    | settled taken => exact absurd refused taken

/-! ### A log that is never taken -/

/-- A log that stands for the answer that there is none. -/
def absentLog : Log :=
  .missing ⟨"a", .within 0 1000, ""⟩ ""

/-- The codec does not take it, but its file is made. -/
theorem exists_absentFile :
    ∃ d', (ofLog .empty absentLog "a").save .empty none =
      (.error (.codec "a" .invalidLog), ofLog .empty absentLog "a", d') ∧
      d'.find "a" = .ok (.file .empty) := by
  have names : Path.components "a" = ["a"] := by cbv
  have made : Disk.empty.makeDirectories ((Path.parent? "a").getD "") = (.ok (), .empty) := by
    rw [show Path.parent? "a" = some "" by cbv]
    exact Disk.makeDirectories_of_directory (by decide) (by decide) rfl
  have reaches : Disk.empty.Reaches "a" := by
    rw [Disk.reaches_iff, names]
    exact ⟨by decide, by decide, by decide, rfl⟩
  have free : Disk.empty.node? (Path.components "a") ≠ some .directory := by
    rw [names]
    rintro ⟨⟩
  obtain ⟨d', emptied, saved⟩ :=
    @save_of_refused (ofLog .empty absentLog "a") .empty absentLog none .invalidLog rfl rfl
      made reaches free
  exact ⟨d', saved, (Disk.wrote emptied).written⟩

/-- The copy is right before the log is refused, and wrong afterwards. -/
theorem truthful_iff_absentLog :
    ∃ (c₁ c₂ : LogCopy) (d₁ d₂ : Disk) (e : StoreError),
      (ofLog .empty absentLog "a").runAll .empty [.load] = (c₁, d₁) ∧
      (Op.save none).run c₁ d₁ = (.error e, c₂, d₂) ∧ Truthful c₁ d₁ ∧ ¬Truthful c₂ d₂ := by
  obtain ⟨d', saved, -⟩ := exists_absentFile
  have made : Made (ofLog .empty absentLog "a") .empty := .inr ⟨_, _, rfl⟩
  have before : (ofLog .empty absentLog "a").runAll .empty [.load] =
    (ofLog .empty absentLog "a", .empty) := rfl
  have step : (Op.save none).run (ofLog .empty absentLog "a") .empty = _ := saved
  obtain ⟨-, -, right, wrong, -⟩ := truthful_iff Disk.rooted_empty made before step
  have truthful := right ⟨not_false, trivial⟩
  refine ⟨_, _, _, d', _, before, step, truthful, fun still => ?_⟩
  exact (wrong truthful).mp still ⟨⟨_, congrArg Prod.fst saved⟩, Disk.isFile_empty "a"⟩

/-- A copy of a log is made where there is no file.  Saving it fails, so that the copy still says
that there is none, and yet there is one now. -/
theorem save_leaves_file :
    ∃ d', (ofLog .empty absentLog "a").save .empty none =
      (.error (.codec "a" .invalidLog), ofLog .empty absentLog "a", d') ∧
      (ofLog .empty absentLog "a").stored = false ∧ Disk.empty.isFile "a" = false ∧
      d'.isFile "a" = true := by
  obtain ⟨d', saved, found⟩ := exists_absentFile
  exact ⟨d', saved, Disk.isFile_empty "a", Disk.isFile_empty "a", Disk.isFile_iff.mpr ⟨_, found⟩⟩

end Scrollback.LogCopy
