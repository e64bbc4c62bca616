/-
A store is a map that lasts.  After any operations on a store that was opened on a directory
without files, it has just the logs that were put last and not removed since, in memory, in its
list and in its files, and that however often it has been opened anew and however few logs fit
in memory (`Store.runAll_isMap`).
-/
import Scrollback.Proofs.Store.Operations

namespace Scrollback.Store

/-- What is asked of a store; it may also be opened anew, with another capacity. -/
inductive Op where
  | put (log : Log)
  | putAll (logs : List Log)
  | get (id : LogId)
  | load (id : LogId)
  | remove (id : LogId)
  | contains (id : LogId)
  | resize (capacity : Nat)
  | saveIndex
  | loadIndex
  | reopen (capacity : Nat)

namespace Op

/-- The logs that are put. -/
def logs : Op → List Log
  | put log => [log]
  | putAll logs => logs
  | _ => []

/-- The store and the disk afterwards; a store that cannot be opened or read is left as it is. -/
def run {μ : Type} [Memory μ LogId LogCopy] (s : Store μ) (d : Disk) : Op → Store μ × Disk
  | put log => (s.put d log).2
  | putAll logs => (s.putAll d logs).2
  | get id => (s.get d id).2
  | load id => (s.load d id).2
  | remove id => (s.remove d id).2
  | contains id => (s.contains d id).2
  | resize capacity => (s.resize capacity, d)
  | saveIndex => (s, (s.saveIndex d).2)
  | loadIndex => (s.loadIndex d).2
  | reopen capacity =>
    let (opened, d) := openAt d s.dir capacity
    (opened.toOption.getD s, d)

/-- No call of the disk fails. -/
def Calm (s : Store) (d : Disk) : Op → Prop
  | put log => Store.Calm (s.put d log).1
  | putAll logs => s.CalmInserts d logs ∧ Store.Calm (s.putAll d logs).1
  | get _ => True
  | load id => Store.Calm (s.load d id).1
  | remove id => Store.Calm (s.remove d id).1
  | contains _ => True
  | resize _ => True
  | saveIndex => Store.Calm (s.saveIndex d).1
  | loadIndex => Store.Calm (s.loadIndex d).1
  | reopen capacity => Store.Calm (openAt d s.dir capacity).1

/-- It is done, but for logs that are not valid: these are refused.  Of what is looked up or
removed `IsMap` says the answers. -/
def Succeeds (s : Store) (d : Disk) : Op → Prop
  | put log => (s.put d log).1 = if log.valid then .ok log else .error (.invalidLog log.id)
  | putAll logs => (s.putAll d logs).1 = .ok (logs.countP Log.valid)
  | saveIndex => (s.saveIndex d).1 = .ok ()
  | loadIndex => (s.loadIndex d).1 = .ok ()
  | reopen capacity => ∃ s', (openAt d s.dir capacity).1 = .ok s'
  | _ => True

/-- The logs that are held afterwards. -/
def held (m : Holdings) : Op → Holdings
  | put log => hold m log
  | putAll logs => logs.foldl hold m
  | remove id => forget m id
  | _ => m

theorem run_load (s : Store) (d : Disk) (id : LogId) :
    (load id).run s d = ((s.load d id).2.1, d) :=
  Prod.ext rfl (s.disk_load d id)

theorem run_loadIndex (s : Store) (d : Disk) : loadIndex.run s d = ((s.loadIndex d).2.1, d) :=
  Prod.ext rfl (s.disk_loadIndex d)

end Op

/-- The store and the disk after some operations. -/
def runAll {μ : Type} [Memory μ LogId LogCopy] (s : Store μ) (d : Disk) : List Op → Store μ × Disk
  | [] => (s, d)
  | op :: ops => runAll (op.run s d).1 (op.run s d).2 ops

/-- No call of the disk fails in some operations. -/
def CalmAll (s : Store) (d : Disk) : List Op → Prop
  | [] => True
  | op :: ops => op.Calm s d ∧ CalmAll (op.run s d).1 (op.run s d).2 ops

/-- Some operations are done one after another. -/
def SucceedAll (s : Store) (d : Disk) : List Op → Prop
  | [] => True
  | op :: ops => op.Succeeds s d ∧ SucceedAll (op.run s d).1 (op.run s d).2 ops

/-- The logs that are held after some operations, none before them: for each identifier the valid
log that was put last, unless it has been removed since. -/
def heldAfter (ops : List Op) : Holdings :=
  ops.foldl Op.held fun _ => none

/-- The store answers as the map of the logs that are held, and their files are the only ones of
logs in the directory. -/
structure IsMap (dir : String) (m : Holdings) (s : Store) (d : Disk) : Prop where
  contains_iff : ∀ id, (s.contains d id).1 = true ↔ (m id).isSome = true
  get_some : ∀ id l, (s.get d id).1 = some l → ∃ log, m id = some log ∧ (l = log ∨ log.ReadBack l)
  load_none_iff : ∀ id, (s.load d id).1 = .ok none ↔ m id = none
  load_some : ∀ id log, m id = some log →
    ∃ l, (s.load d id).1 = .ok (some l) ∧ (l = log ∨ log.ReadBack l)
  remove_eq : ∀ id, (s.remove d id).1 = .ok (m id).isSome
  files_iff : ∀ name, ".bin".toList <:+ name.toList →
    ((∃ bytes, d.node? (Path.components dir ++ [name]) = some (.file bytes)) ↔
      ∃ id, (m id).isSome = true ∧ Path.components (s.pathOf id) = Path.components dir ++ [name])

variable {dir : String} {m : Holdings} {s : Store} {d d' : Disk} {capacity : Nat}

/-- Where the four places agree, the store is the map. -/
theorem Sound.isMap (h : Sound dir m s d) (saved : Saved dir m d) : IsMap dir m s d where
  contains_iff := by
    intro id
    rw [h.contains_eq]
  get_some := fun _ _ => h.get_eq_some
  load_none_iff := by
    intro id
    obtain ⟨none, some, -⟩ := h.load id
    refine ⟨fun answer => ?_, none⟩
    rcases held : m id with - | log
    · rfl
    · obtain ⟨l, loaded, -⟩ := some log held
      rw [answer] at loaded
      cases loaded
  load_some := fun id => (h.load id).2.1
  remove_eq := fun id => (h.remove saved id).1
  files_iff := by
    intro name suffix
    constructor
    · rintro ⟨bytes, node⟩
      obtain ⟨id, held, rfl⟩ := h.files.only suffix node
      refine ⟨id, held, ?_⟩
      rw [pathOf_eq h.dir_eq]
      exact components_filePath dir id
    · rintro ⟨id, held, path⟩
      obtain ⟨log, held⟩ := Option.isSome_iff_exists.mp held
      obtain ⟨bytes, -, found, -⟩ := h.files.stored held
      rw [pathOf_eq h.dir_eq] at path
      obtain ⟨-, node⟩ := Disk.find_eq_ok.mp found
      rw [path] at node
      exact ⟨bytes, node⟩

/-- Every operation is done, and keeps the four places in agreement. -/
theorem Sound.run (h : Sound dir m s d) (saved : Saved dir m d) {op : Op}
    (keepable : ∀ log ∈ op.logs, log.Keepable) (calm : op.Calm s d) :
    op.Succeeds s d ∧ Sound dir (op.held m) (op.run s d).1 (op.run s d).2 ∧
      Saved dir (op.held m) (op.run s d).2 := by
  cases op with
  | put log => exact h.put saved (keepable log List.mem_cons_self) calm
  | putAll logs => exact h.putAll saved keepable calm.1 calm.2
  | get id => exact ⟨trivial, h.get id, saved⟩
  | load id =>
    rw [Op.run_load]
    exact ⟨trivial, (h.load id).2.2, saved⟩
  | remove id => exact ⟨trivial, (h.remove saved id).2⟩
  | contains id => exact ⟨trivial, h, saved⟩
  | resize capacity => exact ⟨trivial, h.resize capacity, saved⟩
  | saveIndex => exact h.saveIndex calm
  | loadIndex =>
    obtain ⟨x, answer, listed⟩ := saved.loadIndex h.dir_eq calm
    rw [Op.run, answer]
    exact ⟨congrArg Prod.fst answer, ⟨h.dir_eq, h.mode_eq, listed, h.copies, h.files⟩, saved⟩
  | reopen capacity =>
    have opening : Store.Calm (Store.openAt d dir capacity).1 := by
      rw [← h.dir_eq]
      exact calm
    obtain ⟨s', d', answer, sound, saved⟩ := h.files.openAt saved opening
    show (∃ s', (Store.openAt d s.dir capacity).1 = .ok s') ∧
      Sound dir m ((Store.openAt d s.dir capacity).1.toOption.getD s)
        (Store.openAt d s.dir capacity).2 ∧ Saved dir m (Store.openAt d s.dir capacity).2
    rw [h.dir_eq, answer]
    exact ⟨⟨s', rfl⟩, sound, saved⟩

theorem Sound.runAll (h : Sound dir m s d) (saved : Saved dir m d) {ops : List Op}
    (keepable : ∀ op ∈ ops, ∀ log ∈ op.logs, log.Keepable) (calm : s.CalmAll d ops) :
    s.SucceedAll d ops ∧ Sound dir (ops.foldl Op.held m) (s.runAll d ops).1 (s.runAll d ops).2 ∧
      Saved dir (ops.foldl Op.held m) (s.runAll d ops).2 := by
  induction ops generalizing m s d with
  | nil => exact ⟨trivial, h, saved⟩
  | cons op ops ih =>
    obtain ⟨succeeds, sound, saved⟩ := h.run saved (keepable op List.mem_cons_self) calm.1
    obtain ⟨others, rest⟩ :=
      ih sound saved (fun other hother => keepable other (List.mem_cons_of_mem _ hother)) calm.2
    exact ⟨⟨succeeds, others⟩, rest⟩

/-- In a directory without files nothing is held. -/
theorem Files.of_empty
    (empty : ∀ name bytes, d.node? (Path.components dir ++ [name]) ≠ some (.file bytes)) :
    Files dir (fun _ => none) d ∧ Saved dir (fun _ => none) d := by
  have files : Files dir (fun _ => none) d :=
    ⟨by rintro _ _ ⟨⟩, by rintro _ _ ⟨⟩, fun _ node => absurd node (empty _ _)⟩
  refine ⟨files, .inl ⟨fun _ => rfl, ?_⟩⟩
  intro bytes
  rw [components_listPath]
  exact empty _ bytes

/-- A store can be opened on a directory without files.  After any operations in which no call of
the disk fails it is the map of the logs that were put and have not been removed since, and each of
the operations has been done. -/
theorem runAll_isMap
    (empty : ∀ name bytes, d.node? (Path.components dir ++ [name]) ≠ some (.file bytes))
    (opening : Calm (openAt d dir capacity).1) :
    ∃ s d', openAt d dir capacity = (.ok s, d') ∧ ∀ ops : List Op,
      (∀ op ∈ ops, ∀ log ∈ op.logs, log.Keepable) → s.CalmAll d' ops →
      s.SucceedAll d' ops ∧ IsMap dir (heldAfter ops) (s.runAll d' ops).1 (s.runAll d' ops).2 := by
  obtain ⟨files, saved⟩ := Files.of_empty empty
  obtain ⟨s, d', answer, sound, saved⟩ := files.openAt saved opening
  refine ⟨s, d', answer, fun ops keepable calm => ?_⟩
  obtain ⟨succeed, sound, saved⟩ := sound.runAll saved keepable calm
  exact ⟨succeed, sound.isMap saved⟩

/-! ### One log, kept and opened anew -/

/-- One line, for everybody. -/
def greeting : Log :=
  Service.gempir.parse ⟨"a", Codec.firstSecond, ""⟩
    "[2020-01-01 00:00:01] #a b: c"

set_option maxRecDepth 10000 in
theorem greeting_eq :
    greeting = ⟨⟨"a", ⟨0, 1000, by decide, by decide, by decide⟩, ""⟩,
      "[2020-01-01 00:00:01] #a b: c", true, #[⟨25, 1⟩],
      #[⟨⟨1577836801, 0⟩, ⟨25, 1⟩, ⟨28, 1⟩⟩]⟩ := by
  cbv

theorem keepable_greeting : greeting.Keepable := by
  have obtained : greeting.Obtained := .parsed ..
  refine ⟨obtained, ?_, fun valid => obtained.exists_encode .native valid ?_⟩
  · rw [greeting_eq]
    decide
  · have names : greeting.nameTexts = ["b"] := by
      rw [greeting_eq]
      cbv
    rw [Codec.sizeBound, names, greeting_eq]
    decide

theorem components_logs : Path.components "logs" = ["logs"] := by
  cbv

theorem filePath_greeting : filePath "logs" greeting.id = "logs/a_0_1000.bin" := by
  rw [greeting_eq]
  cbv

/-- A store that has just been opened has room for the log and for the list. -/
theorem exists_emptyLogs :
    ∃ d, openAt ⟨[]⟩ "logs" 1 = (.ok ⟨"logs", .empty 1, .empty, none⟩, d) ∧
      d.node? (Path.components "logs") = some .directory ∧
      (d.Reaches (listPath "logs") ∧ d.node? (Path.components (listPath "logs")) = none) ∧
      d.Reaches (filePath "logs" greeting.id) ∧
      d.node? (Path.components (filePath "logs" greeting.id)) = none := by
  obtain ⟨d, made, logs⟩ : ∃ d, Disk.makeDirectories ⟨[]⟩ "logs" = (.ok (), d) ∧
      d = ⟨[(["logs"], .directory)]⟩ := ⟨_, by cbv, rfl⟩
  have names : Path.components (filePath "logs" greeting.id) = ["logs", "a_0_1000.bin"] := by
    rw [filePath_greeting]
    decide +kernel
  have list : d.Reaches (listPath "logs") := by
    rw [Disk.reaches_iff, components_listPath, components_logs, logs]
    exact ⟨by cbv, by decide +kernel, by cbv, rfl⟩
  have unlisted : d.node? (Path.components (listPath "logs")) = none := by
    rw [components_listPath, components_logs, logs]
    rfl
  refine ⟨d, ?_, ?_, ⟨list, unlisted⟩, ?_, ?_⟩
  · rw [openAt_eq made, @loadIndex_of_missing "logs" (bare "logs" 1 none) d rfl
      (Disk.find_of_missing list unlisted)]
    rfl
  · rw [components_logs, logs]
    rfl
  · rw [Disk.reaches_iff, names, filePath_greeting, logs]
    exact ⟨by decide, by decide, by decide, rfl⟩
  · rw [names, logs]
    rfl

theorem makeDirectories_logs (directory : d.node? (Path.components "logs") = some .directory) :
    d.makeDirectories "logs" = (.ok (), d) :=
  Disk.makeDirectories_of_directory (by decide) (by decide) directory

/-- The directory of the log's file is there already. -/
theorem makeDirectories_greeting (directory : d.node? (Path.components "logs") = some .directory) :
    d.makeDirectories ((Path.parent? (filePath "logs" greeting.id)).getD "") = (.ok (), d) := by
  rw [filePath_greeting, show Path.parent? "logs/a_0_1000.bin" = some "logs" by decide]
  exact makeDirectories_logs directory

/-- A log is kept in an empty directory, dropped from memory and read from its file, and read again
by a store that is opened anew. -/
def greetingOps : List Op :=
  [.put greeting, .resize 0, .load greeting.id, .reopen 2, .load greeting.id]

theorem runAll_isMap_greeting :
    ∃ s d, openAt ⟨[]⟩ "logs" 1 = (.ok s, d) ∧ heldAfter greetingOps greeting.id = some greeting ∧
      s.SucceedAll d greetingOps ∧
      IsMap "logs" (heldAfter greetingOps) (s.runAll d greetingOps).1
        (s.runAll d greetingOps).2 := by
  obtain ⟨d, opened, directory, ⟨list, unlisted⟩, file, free⟩ := exists_emptyLogs
  generalize (⟨"logs", .empty 1, .empty, none⟩ : Store) = s at opened
  have valid : greeting.valid = true := by rw [greeting_eq]
  have empty : ∀ name bytes, (⟨[]⟩ : Disk).node? (Path.components "logs" ++ [name]) ≠
      some (.file bytes) := fun _ => Disk.node?_nil_ne_file _
  have opening : Calm (openAt ⟨[]⟩ "logs" 1).1 := calm_of_ok (congrArg Prod.fst opened)
  obtain ⟨s', d', answer, all⟩ := runAll_isMap empty opening
  rw [opened] at answer
  cases answer
  obtain ⟨files, saved⟩ := Files.of_empty empty
  obtain ⟨s', d', answer, sound, saved⟩ := files.openAt saved opening
  rw [opened] at answer
  cases answer
  -- the log is put
  obtain ⟨s₁, d₁, put, kept⟩ := put_of_reaches sound.dir_eq sound.mode_eq keepable_greeting valid
    (makeDirectories_greeting directory) file (by simp [free]) list (by simp [unlisted])
  have calm : (Op.put greeting).Calm s d := calm_of_ok (congrArg Prod.fst put)
  have run : (Op.put greeting).run s d = (s₁, d₁) := by
    show (s.put d greeting).2 = _
    rw [put]
  obtain ⟨-, sound, saved⟩ := sound.run saved (by simpa [Op.logs] using keepable_greeting) calm
  rw [run] at sound saved
  have held : (Op.put greeting).held (fun _ => none) greeting.id = some greeting := by
    rw [Op.held, hold_of_valid valid, keep_self]
  -- then it is only read
  have loaded := ((sound.resize 0).load greeting.id).2.2
  have reopening : (Op.reopen 2).Calm ((s₁.resize 0).load d₁ greeting.id).2.1 d₁ := by
    show Calm (openAt d₁ ((s₁.resize 0).load d₁ greeting.id).2.1.dir 2).1
    rw [loaded.dir_eq, openAt_eq (makeDirectories_logs (kept _ directory))]
    exact (saved.calm_loadIndex rfl held).map _
  have reopened := (loaded.run saved (by simp [Op.logs]) reopening).2.1
  have calms : s.CalmAll d greetingOps := by
    refine ⟨calm, ?_⟩
    rw [run]
    refine ⟨trivial, (sound.resize 0).calm_load _, ?_⟩
    rw [Op.run_load]
    exact ⟨reopening, reopened.calm_load _, trivial⟩
  refine ⟨s, d, opened, held, all greetingOps ?_ calms⟩
  intro op hop log hlog
  simp only [greetingOps, List.mem_cons, List.not_mem_nil, or_false] at hop
  rcases hop with rfl | rfl | rfl | rfl | rfl
  · obtain rfl := List.mem_singleton.mp hlog
    exact keepable_greeting
  all_goals cases hlog

end Scrollback.Store
