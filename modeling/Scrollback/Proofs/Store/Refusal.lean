/-
Logs that are not put.  A log that is not valid is refused before anything is done, and nothing has
changed.  A log that the codec refuses is found out too late: its file has been made empty by then,
whatever was in it.  So the store keeps what it had just when the log was not valid, or its file
was there and empty already (`Store.untouched_iff`); otherwise an older log of its identifier is
lost (`Store.put_loses_older`).
-/
import Scrollback.Proofs.Store.Origin
import Scrollback.Proofs.Store.Persistent

namespace Scrollback

/-- The store or the codec does not take the log. -/
def StoreError.Refuses : StoreError → Prop
  | .invalidLog _ => True
  | .codec _ _ => True
  | _ => False

namespace Store

variable {s s' : Store} {d d' : Disk} {log : Log}

/-! ### Stores that can be reached -/

/-- A store that has been opened, a mode set or not, and the disk with it, after operations. -/
inductive Reachable : Store → Disk → Prop
  | opened {d₀ d : Disk} {dir : String} {capacity : Nat} {s : Store}
    (h : openAt d₀ dir capacity = (.ok s, d)) (mode : Option Mode) :
    Reachable { s with mode := mode } d
  | run {s : Store} {d : Disk} (h : Reachable s d) (op : Op) : Reachable (op.run s d).1 (op.run s d).2

/-- The store is of the same directory, and no directory has been taken away. -/
structure Stays (s : Store) (d : Disk) (s' : Store) (d' : Disk) : Prop where
  dir_eq : s'.dir = s.dir
  keeps : d.Keeps d'

namespace Stays

theorem refl (s : Store) (d : Disk) : Stays s d s d := ⟨rfl, .refl d⟩

theorem trans {s'' : Store} {d'' : Disk} (h : Stays s d s' d') (h' : Stays s' d' s'' d'') :
    Stays s d s'' d'' :=
  ⟨h'.dir_eq.trans h.dir_eq, h.keeps.trans h'.keeps⟩

theorem saveIndex (s : Store) (d : Disk) : Stays s d s (s.saveIndex d).2 := by
  rw [Store.saveIndex]
  split
  · next written => exact ⟨rfl, Disk.keeps_write written⟩
  · exact refl s d

theorem loadIndex (s : Store) (d : Disk) : (s.loadIndex d).2.1.dir = s.dir := by
  rw [eq_loadIndex]

theorem openAt {dir : String} {capacity : Nat} (h : Store.openAt d dir capacity = (.ok s, d')) :
    s.dir = dir ∧ d.Keeps d' ∧ d'.node? (Path.components dir) = some .directory := by
  have grown := d.grown_makeDirectories dir
  obtain ⟨d₁, made, loaded⟩ := exists_loadIndex_of_openAt (congrArg Prod.fst h)
  have disk := (disk_openAt d dir capacity).symm.trans (congrArg Prod.snd h)
  rw [made] at disk grown
  obtain rfl : d₁ = d' := disk
  have same := loadIndex (bare dir capacity none) d₁
  rw [loaded] at same
  exact ⟨same, grown.keeps, Disk.directory_of_makeDirectories made⟩

theorem insert (s : Store) (d : Disk) (log : Log) :
    Stays s d (s.insert d log).2.1 (s.insert d log).2.2 := by
  rw [Store.insert]
  split
  · exact refl s d
  · dsimp only
    have kept := ((LogCopy.ofLog d log (s.pathOf log.id)).spares_save d s.mode).keeps
    rcases saved : (LogCopy.ofLog d log (s.pathOf log.id)).save d s.mode with ⟨e | ⟨⟩, copy, d₁⟩
    · rw [saved] at kept
      exact ⟨rfl, kept⟩
    · rw [saved] at kept
      exact ⟨rfl, kept⟩

theorem finish {α : Type} (s : Store) (d : Disk) (answer : α) :
    Stays s d (s.finish d answer).2.1 (s.finish d answer).2.2 := by
  have list := saveIndex s d
  rw [Store.finish]
  generalize s.saveIndex d = r at list ⊢
  rcases r with ⟨e | ⟨⟩, d₁⟩
  · exact list
  · exact list

theorem put (s : Store) (d : Disk) (log : Log) :
    Stays s d (s.put d log).2.1 (s.put d log).2.2 := by
  have inserted := insert s d log
  rw [Store.put]
  generalize s.insert d log = r at inserted ⊢
  rcases r with ⟨e | l, s₁, d₁⟩
  · exact inserted
  · exact inserted.trans (finish s₁ d₁ l)

theorem insertAll (s : Store) (d : Disk) (logs : List Log) (n : Nat) :
    Stays s d (logs.foldl insertNext (n, s, d)).2.1 (logs.foldl insertNext (n, s, d)).2.2 :=
  insertAll_keeps (P := Stays s d) (fun s' d' log _ h => h.trans (insert s' d' log)) (refl s d) n

theorem putAll (s : Store) (d : Disk) (logs : List Log) :
    Stays s d (s.putAll d logs).2.1 (s.putAll d logs).2.2 := by
  have inserted := insertAll s d logs 0
  rw [Store.putAll, Store.insertAll]
  generalize logs.foldl insertNext (0, s, d) = r at inserted ⊢
  rcases r with ⟨n, s₁, d₁⟩
  dsimp only
  split
  · exact inserted
  · exact inserted.trans (finish s₁ d₁ n)

theorem load (s : Store) (d : Disk) (id : LogId) : (s.load d id).2.1.dir = s.dir := by
  rw [eq_load]

theorem remove (s : Store) (d : Disk) (id : LogId) :
    Stays s d (s.remove d id).2.1 (s.remove d id).2.2 := by
  rw [Store.remove]
  dsimp only
  split
  · exact ⟨rfl, .refl d⟩
  · next path _ =>
    have kept := (LogCopy.spares_dropFile
      ((s.cache.remove id).1.getD (LogCopy.ofFile d id path)) d).keeps
    generalize ((s.cache.remove id).1.getD (LogCopy.ofFile d id path)).dropFile d = r at kept ⊢
    rcases r with ⟨e | ⟨⟩, copy, d₁⟩
    · exact ⟨rfl, kept⟩
    · have list := finish { s with
        cache := (s.cache.remove id).2
        index := s.index.erase id } d₁ true
      exact ⟨list.dir_eq, kept.trans list.keeps⟩

/-- No operation leaves the directory, or takes one away. -/
theorem run (s : Store) (d : Disk) (op : Op) : Stays s d (op.run s d).1 (op.run s d).2 := by
  cases op with
  | put log => exact put s d log
  | putAll logs => exact putAll s d logs
  | get id => exact ⟨rfl, .refl d⟩
  | load id =>
    rw [Op.run_load]
    exact ⟨load s d id, .refl d⟩
  | remove id => exact remove s d id
  | contains id => exact refl s d
  | resize capacity => exact ⟨rfl, .refl d⟩
  | saveIndex => exact saveIndex s d
  | loadIndex =>
    rw [Op.run_loadIndex]
    exact ⟨loadIndex s d, .refl d⟩
  | reopen capacity =>
    have grown := d.grown_makeDirectories s.dir
    have opened : ∀ s₁, (Store.openAt d s.dir capacity).1 = .ok s₁ → s₁.dir = s.dir := by
      intro s₁ h
      exact (openAt (Prod.ext h rfl)).1
    have kept : d.Keeps (Store.openAt d s.dir capacity).2 := by
      rw [disk_openAt]
      exact grown.keeps
    show Stays s d ((Store.openAt d s.dir capacity).1.toOption.getD s) _
    refine ⟨?_, kept⟩
    rcases answer : (Store.openAt d s.dir capacity).1 with e | s₁
    · rfl
    · exact opened s₁ answer

end Stays

/-- The directory of a store is there. -/
theorem Reachable.directory (h : Reachable s d) :
    d.node? (Path.components s.dir) = some .directory := by
  induction h with
  | opened h mode =>
    obtain ⟨dir_eq, -, directory⟩ := Stays.openAt h
    rw [← dir_eq] at directory
    exact directory
  | @run s d h op ih =>
    obtain ⟨dir_eq, keeps⟩ := Stays.run s d op
    rw [dir_eq]
    exact keeps _ ih

/-! ### What can come of a put -/

/-- Above the file of a log lies the directory of the store. -/
theorem components_parent_filePath (dir : String) (id : LogId) :
    Path.components ((Path.parent? (filePath dir id)).getD "") = Path.components dir :=
  Path.components_parent_join dir (isName_fileName id)

theorem saveIndex_cases (s : Store) (d : Disk) :
    (∃ d', s.saveIndex d = (.ok (), d')) ∨ ∃ path e, s.saveIndex d = (.error (.disk path e), d) := by
  rw [saveIndex]
  rcases d.write s.indexPath s.index.toBytes with e | d'
  · exact .inr ⟨_, e, rfl⟩
  · exact .inl ⟨d', rfl⟩

/-- A log that is not valid is refused at once, and one that the codec refuses when its file has
been made empty; otherwise the log is put, or the disk fails. -/
theorem put_cases (directory : d.node? (Path.components s.dir) = some .directory) (log : Log) :
    (log.valid = false ∧ s.put d log = (.error (.invalidLog log.id), s, d)) ∨
    (log.valid = true ∧ ∃ cause d', d.write (s.pathOf log.id) .empty = .ok d' ∧
      s.put d log = (.error (.codec (s.pathOf log.id) cause), s, d')) ∨
    (∃ path e s' d', s.put d log = (.error (.disk path e), s', d')) ∨
    ∃ s' d', s.put d log = (.ok log, s', d') := by
  rcases valid : log.valid with - | -
  · refine .inl ⟨rfl, ?_⟩
    rw [Store.put, insert_of_invalid valid]
  · right
    rw [Store.put, insert_of_valid rfl valid]
    have above : d.node? (Path.components
        ((Path.parent? (LogCopy.ofLog d log (filePath s.dir log.id)).path).getD "")) =
        some .directory := by
      rw [← directory]
      exact congrArg d.node? (components_parent_filePath s.dir log.id)
    rcases LogCopy.save_outcomes rfl above s.mode with
      ⟨d₁, saved⟩ | ⟨cause, d₁, emptied, refused⟩ | ⟨path, e, d₁, failed⟩
    · -- the file has been written, and now the list is
      right
      rw [saved]
      dsimp only
      generalize ({ s with
        index := s.index.insert log.id (filePath s.dir log.id)
        cache := _ } : Store) = s₁
      rcases saveIndex_cases s₁ d₁ with ⟨d₂, listed⟩ | ⟨path, e, failed⟩
      · rw [listed]
        exact .inr ⟨s₁, d₂, rfl⟩
      · rw [failed]
        exact .inl ⟨path, e, s₁, d₁, rfl⟩
    · rw [refused]
      exact .inl ⟨rfl, cause, d₁, emptied, rfl⟩
    · rw [failed]
      exact .inr (.inl ⟨path, e, s, d₁, rfl⟩)

/-- A log that can be written is in memory when it has been put, and in its file. -/
theorem put_of_written {dir : String} {out : List UInt8}
    (dir_eq : s.dir = dir) (valid : log.valid = true)
    (written : Codec.encode log (s.mode.getD (Codec.narrowest log)) .native = .ok out)
    (made : d.makeDirectories ((Path.parent? (filePath dir log.id)).getD "") = (.ok (), d))
    (reaches : d.Reaches (filePath dir log.id))
    (free : d.node? (Path.components (filePath dir log.id)) ≠ some .directory) :
    ∃ copy d', (s.put d log).2 = ({ s with
        index := s.index.insert log.id (filePath dir log.id)
        cache := (s.cache.put log.id copy).2 }, d') ∧ d.Keeps d' ∧
      d'.find (filePath dir log.id) = .ok (.file out.toByteArray) := by
  obtain ⟨copy, d₁, inserted, kept, nodes⟩ :=
    insert_of_reaches dir_eq valid written made reaches free
  have found : d₁.find (filePath dir log.id) = .ok (.file out.toByteArray) :=
    Disk.find_eq_ok.mpr ⟨reaches.mono kept, by rw [nodes, if_pos rfl]⟩
  refine ⟨copy, ?_⟩
  rw [Store.put, inserted]
  dsimp only
  generalize same : ({ s with
    index := s.index.insert log.id (filePath dir log.id)
    cache := (s.cache.put log.id copy).2 } : Store) = s₁
  have dir_eq : s₁.dir = dir := by
    rw [← same]
    exact dir_eq
  rw [Store.saveIndex, indexPath_eq dir_eq]
  rcases list : d₁.write (listPath dir) s₁.index.toBytes with e | d₂
  · exact ⟨d₁, rfl, kept, found⟩
  · exact ⟨d₂, rfl, kept.trans (Disk.keeps_write list),
      (Disk.wrote list).others (filePath_ne_listPath dir log.id) found⟩

/-- A valid log that the codec refuses has its file made empty. -/
theorem put_of_refused {dir : String} {cause : CodecError}
    (dir_eq : s.dir = dir) (valid : log.valid = true)
    (refused : Codec.encode log (s.mode.getD (Codec.narrowest log)) .native = .error cause)
    (made : d.makeDirectories ((Path.parent? (filePath dir log.id)).getD "") = (.ok (), d))
    (reaches : d.Reaches (filePath dir log.id))
    (free : d.node? (Path.components (filePath dir log.id)) ≠ some .directory) :
    ∃ d', d.write (filePath dir log.id) .empty = .ok d' ∧
      s.put d log = (.error (.codec (filePath dir log.id) cause), s, d') := by
  obtain ⟨d', emptied, saved⟩ :=
    @LogCopy.save_of_refused (LogCopy.ofLog d log (filePath dir log.id)) d log s.mode cause rfl
      refused made reaches free
  refine ⟨d', emptied, ?_⟩
  rw [Store.put, insert_of_valid dir_eq valid, saved]
  rfl

/-! ### What is left of a refused put -/

/-- What is loaded from a store that is opened on a directory. -/
def reloaded (d : Disk) (dir : String) (capacity : Nat) (id : LogId) :
    Except StoreError (Option Log) :=
  match openAt d dir capacity with
  | (.error e, _) => .error e
  | (.ok s, d) => (s.load d id).1

/-- Nothing that can be seen of a store has changed: the files, the logs in memory and their order,
and what is loaded, by this store or by one that is opened on its directory. -/
structure Untouched (s : Store) (d : Disk) (s' : Store) (d' : Disk) : Prop where
  files : ∀ names bytes, d'.node? names = some (.file bytes) ↔ d.node? names = some (.file bytes)
  residents : s'.residentIds = s.residentIds
  loads : ∀ id, (s'.load d' id).1 = (s.load d id).1
  reopened : ∀ capacity id, reloaded d' s'.dir capacity id = reloaded d s.dir capacity id

theorem load_of_same (same : d.Same d') (s : Store) (id : LogId) :
    (s.load d' id).1 = (s.load d id).1 := by
  have reads : ∀ path,
      (LogCopy.ofFile d' id path).readFile d' = (LogCopy.ofFile d id path).readFile d := by
    intro path
    rw [LogCopy.readFile, LogCopy.readFile, same.find]
    rfl
  have loading := s.loading d id
  generalize s.load d id = r at loading ⊢
  cases loading with
  | resident got => exact load_of_get d' got
  | unlisted absent listed => exact load_of_unlisted d' absent listed
  | failed absent listed read =>
    rw [load_of_absent d' absent listed, reads, read]
    rfl
  | read absent listed read =>
    rw [load_of_absent d' absent listed, reads, read]
    rfl

theorem loadIndex_of_same (same : d.Same d') (s : Store) :
    s.loadIndex d' = ((s.loadIndex d).1, (s.loadIndex d).2.1, d') := by
  have relisting := s.relisting d
  rw [loadIndex, same.read]
  generalize s.loadIndex d = r at relisting ⊢
  cases relisting with
  | missing read => rw [read]
  | @unread cause read other =>
    rw [read]
    cases cause with
    | notFound => exact absurd rfl other
    | _ => rfl
  | malformed read parsed => simp only [read, parsed]
  | parsed read parsed => simp only [read, parsed]

theorem untouched_of_same (same : d.Same d')
    (directory : d.node? (Path.components s.dir) = some .directory) : Untouched s d s d' where
  files := by
    intro names bytes
    rw [same]
  residents := rfl
  loads := by
    intro id
    rw [load_of_same same]
  reopened := by
    intro capacity id
    have directory' : d'.node? (Path.components s.dir) = some .directory := by
      rw [same, directory]
    have here := Disk.makeDirectories_eq_of_directory directory
    have there := Disk.makeDirectories_eq_of_directory directory'
    generalize (if s.dir.contains '\x00' then Except.error .zeroInName
      else if Disk.maxPath < s.dir.utf8ByteSize then .error .nameTooLong
      else .ok () : Except DiskError Unit) = made at here there
    rcases made with e | ⟨⟩
    · rw [reloaded, reloaded, openAt, openAt, here, there]
    · rw [reloaded, reloaded, openAt_eq here, openAt_eq there, loadIndex_of_same same]
      rcases ((bare s.dir capacity none).loadIndex d).1 with e | ⟨⟩
      · rfl
      · exact load_of_same same _ id

/-- An empty file holds no log. -/
theorem load_of_emptied {id : LogId} {path : String} (absent : (s.get d id).1 = none)
    (listed : s.index.path? id = some path) (emptied : d.find path = .ok (.file .empty)) :
    (s.load d id).1 = .error (.codec path (.truncated .preamble)) := by
  have refused := LogCopy.readFile_of_refused (c := LogCopy.ofFile d id path) emptied
    (show Codec.decode .empty = .error (.truncated .preamble) from rfl)
  rw [load_of_absent d absent listed, refused]
  rfl

/-! ### A log that is too long -/

/-- The time of a line. -/
def clock : List Char :=
  ['2', '0', '2', '0', '-', '0', '1', '-', '0', '1', ' ', '0', '0', ':', '0', '0', ':', '0', '1']

/-- A line up to its message. -/
def lineFront : List Char :=
  '[' :: clock ++ [']', ' ', '#', 'a', ' ', 'b', ':', ' ']

/-- A line with a message of some length. -/
def longLine (n : Nat) : String :=
  String.ofList (lineFront ++ List.replicate n 'c')

/-- The log of such a line, with the identifier of `greeting`. -/
def longLog (n : Nat) : Log :=
  Service.gempir.parse greeting.id (longLine n)

theorem not_mem_longLine {c : Char} (n : Nat) (ne : c ≠ 'c') (front : c ∉ lineFront) :
    c ∉ (longLine n).toList := by
  rw [longLine, String.toList_ofList, List.mem_append, not_or]
  exact ⟨front, fun mem => ne (List.eq_of_mem_replicate mem)⟩

theorem utf8Size_replicate (n : Nat) : utf8Size (List.replicate n 'c') = n := by
  rw [utf8Size, List.map_replicate]
  show (List.replicate n _).sum = n
  rw [List.sum_replicate]
  exact Nat.mul_one n

theorem gempirLine_longLine (n : Nat) :
    Grammar.gempirLine (longLine n).toList =
      some ⟨⟨1577836801, 0⟩, 25, ['b'], 2, List.replicate n 'c'⟩ := by
  have cut : Grammar.cutBracket (clock ++ [']', ' ', '#', 'a', ' ', 'b', ':', ' '] ++
      List.replicate n 'c') =
        some (clock, ['#', 'a', ' ', 'b', ':', ' '] ++ List.replicate n 'c') := rfl
  have time : Stamp.read clock = some (⟨1577836801, 0⟩, []) := by decide
  have head : Grammar.head List.isEmpty (longLine n).toList =
      some (⟨1577836801, 0⟩, 22, ['#', 'a', ' ', 'b', ':', ' '] ++ List.replicate n 'c') := by
    rw [longLine, String.toList_ofList]
    exact Grammar.head_eq cut time rfl
  rw [Grammar.gempirLine, head]
  rfl

theorem spans_longLine (n : Nat) :
    Grammar.spans .gempir (longLine n) = [⟨⟨1577836801, 0⟩, ⟨25, 1⟩, ⟨28, n⟩⟩] := by
  have one : (longLine n).toList.splitOn '\n' = [(longLine n).toList] :=
    List.splitOn_eq_singleton (not_mem_longLine n (by decide) (by decide))
  have kept : Grammar.dropReturn (longLine n).toList = (longLine n).toList := by
    rw [Grammar.dropReturn, if_neg]
    intro last
    exact not_mem_longLine n (by decide) (by decide) (List.mem_of_getLast? last)
  rw [Grammar.spans, one, Grammar.spansFrom, kept, Grammar.lineOf, gempirLine_longLine]
  show [Grammar.Parts.spans _ 0] = _
  rw [Grammar.Parts.spans, utf8Size_replicate]
  rfl

theorem longLog_eq (n : Nat) :
    longLog n = Log.ofLines greeting.id (longLine n) [⟨⟨1577836801, 0⟩, ⟨25, 1⟩, ⟨28, n⟩⟩] := by
  rw [longLog, Service.parse, if_neg, spans_longLine]
  intro missing
  have brace : '\x7b' ∈ trim (longLine n).toList := by
    rw [← @String.toList_ofList (trim _)]
    show _ ∈ (trimText (longLine n)).toList
    rw [missing]
    decide
  rw [trim, List.mem_reverse] at brace
  have inside : '\x7b' ∈ (longLine n).toList :=
    (trimStart_sublist _).subset (List.mem_reverse.mp ((trimStart_sublist _).subset brace))
  exact not_mem_longLine n (by decide) (by decide) inside

theorem valid_longLog (n : Nat) : (longLog n).valid = true := by
  rw [longLog_eq]
  rfl

theorem messages_longLog (n : Nat) :
    ((longLog n).remarks.map fun l => utf8 l.message).flatten.length = n := by
  have text : (⟨28, n⟩ : Span).textIn (longLine n) = String.ofList (List.replicate n 'c') := by
    have middle := Span.textIn_append (String.ofList lineFront)
      (String.ofList (List.replicate n 'c')) ""
    rw [utf8ByteSize_ofList, utf8ByteSize_ofList, utf8Size_replicate, String.append_empty,
      ← String.ofList_append] at middle
    exact middle
  rw [longLog_eq]
  show (utf8 ((⟨28, n⟩ : Span).textIn (longLine n)) ++ []).length = n
  rw [text, List.append_nil, length_utf8, utf8ByteSize_ofList, utf8Size_replicate]

/-- A store that writes in the narrowest mode only, and has been given a log. -/
theorem exists_greeted :
    ∃ (s : Store) (d : Disk) (bytes : ByteArray) (back : Log), Reachable s d ∧ s.dir = "logs" ∧
      s.mode = some .u16 ∧
      d.makeDirectories ((Path.parent? (filePath "logs" greeting.id)).getD "") = (.ok (), d) ∧
      d.find (filePath "logs" greeting.id) = .ok (.file bytes) ∧
      Codec.decode bytes = .ok back ∧ greeting.ReadBack back := by
  obtain ⟨d, opened, directory, -, file, free⟩ := exists_emptyLogs
  have start : Reachable (bare "logs" 1 (some .u16)) d := .opened opened (some .u16)
  -- the log is short enough
  have valid : greeting.valid = true := by rw [greeting_eq]
  obtain ⟨obtained, times, -⟩ := keepable_greeting
  obtain ⟨out, written⟩ := @obtained.exists_encode _ .u16 .native valid (by cbv)
  obtain ⟨back, read, same⟩ := Codec.decode_of_representable obtained.storable written times
  have dir_eq : (bare "logs" 1 (some .u16)).dir = "logs" := rfl
  obtain ⟨copy, d', put, kept, found⟩ :=
    put_of_written dir_eq valid written (makeDirectories_greeting directory) file (by simp [free])
  have reachable := start.run (.put greeting)
  rw [show (Op.put greeting).run (bare "logs" 1 (some .u16)) d = _ from put] at reachable
  exact ⟨_, d', _, back, reachable, rfl, rfl, makeDirectories_greeting (kept _ directory), found,
    read, same⟩

/-- The store is then given a longer log of the same identifier. -/
theorem exists_refused :
    ∃ (s : Store) (d d' : Disk) (bytes : ByteArray) (back : Log) (n : Nat), Reachable s d ∧
      s.put d (longLog 65536) =
        (.error (.codec (s.pathOf (longLog 65536).id) (.overflow n .u16)), s, d') ∧
      d.find (s.pathOf (longLog 65536).id) = .ok (.file bytes) ∧ bytes ≠ .empty ∧
      Codec.decode bytes = .ok back ∧ greeting.ReadBack back ∧
      d'.find (s.pathOf (longLog 65536).id) = .ok (.file .empty) := by
  obtain ⟨s, d, bytes, back, reachable, dir_eq, mode_eq, there, found, read, same⟩ := exists_greeted
  have obtained : (longLog 65536).Obtained := .parsed ..
  have same_id : (longLog 65536).id = greeting.id := by
    rw [longLog_eq]
    rfl
  have valid := valid_longLog 65536
  have long : Mode.u16.max <
      ((longLog 65536).remarks.map fun l => utf8 l.message).flatten.length := by
    rw [messages_longLog]
    decide
  -- the log itself is too large to be looked at from here on
  generalize longLog 65536 = log at *
  have storable := obtained.storable
  obtain ⟨authors, hauthors⟩ :=
    Codec.exists_authorNumbers storable.names_increase storable.authors_named
  obtain ⟨n, refused⟩ := Codec.encode_of_long_messages .u16 .native valid hauthors long
  have chosen : s.mode.getD (Codec.narrowest log) = .u16 := by rw [mode_eq, Option.getD_some]
  rw [← chosen] at refused
  rw [← same_id] at found there
  obtain ⟨reaches, now⟩ := Disk.find_eq_ok.mp found
  obtain ⟨d', emptied, answer⟩ :=
    put_of_refused dir_eq valid refused there reaches (by simp [now])
  rw [chosen] at answer
  have bytes_ne : bytes ≠ .empty := by
    rintro rfl
    rw [show Codec.decode .empty = .error (.truncated .preamble) from rfl] at read
    cases read
  refine ⟨s, d, d', bytes, back, n, reachable, ?_⟩
  rw [pathOf_eq dir_eq]
  exact ⟨answer, found, bytes_ne, read, same, (Disk.wrote emptied).written⟩

/-! ### Refused puts -/

/-- A log is refused.  Then all in memory is as it was, and of the files all but the log's own.  Of
a valid log that file is empty now, so that it cannot be loaded unless it is in memory.  So nothing
has changed just when the log is not valid, or its file was there and was empty. -/
theorem untouched_iff {e : StoreError} (reachable : Reachable s d)
    (refused : s.put d log = (.error e, s', d')) (refuses : e.Refuses) :
    s' = s ∧
    (∀ names, names ≠ Path.components (s.pathOf log.id) → d'.node? names = d.node? names) ∧
    (log.valid = true → d'.find (s.pathOf log.id) = .ok (.file .empty)) ∧
    (log.valid = true → (s.get d log.id).1 = none →
      s.index.path? log.id = some (s.pathOf log.id) →
      (s'.load d' log.id).1 = .error (.codec (s.pathOf log.id) (.truncated .preamble))) ∧
    (Untouched s d s' d' ↔
      log.valid = false ∨ d.find (s.pathOf log.id) = .ok (.file .empty)) := by
  have directory := reachable.directory
  rcases put_cases directory log with ⟨invalid, answer⟩ | ⟨valid, cause, d₁, emptied, answer⟩ |
    ⟨path, cause, s₁, d₁, answer⟩ | ⟨s₁, d₁, answer⟩
  · rw [answer] at refused
    cases refused
    have not_valid : ¬log.valid = true := Bool.eq_false_iff.mp invalid
    refine ⟨rfl, fun _ _ => rfl, fun valid => absurd valid not_valid,
      fun valid => absurd valid not_valid, fun _ => .inl invalid, fun _ => ?_⟩
    exact untouched_of_same (fun _ => rfl) directory
  -- the codec has refused a log whose file is empty by now
  · rw [answer] at refused
    cases refused
    have found : d'.find (s.pathOf log.id) = .ok (.file .empty) := (Disk.wrote emptied).written
    refine ⟨rfl, fun names other => ?_, fun _ => found,
      fun _ absent listed => load_of_emptied absent listed found, fun untouched => ?_, fun was => ?_⟩
    · rw [Disk.node?_write emptied, if_neg other]
    · -- so if no file is another than before, it was empty then
      right
      have now := (Disk.find_eq_ok.mp found).2
      exact Disk.find_eq_ok.mpr ⟨(Disk.write_eq_ok.mp emptied).1, (untouched.files _ _).mp now⟩
    · have was := (Disk.find_eq_ok.mp (was.resolve_left (by simp [valid]))).2
      refine untouched_of_same (fun names => ?_) directory
      rw [Disk.node?_write emptied]
      split
      · next own => rw [own, was]
      · rfl
  -- a failure of the disk is no refusal
  · rw [answer] at refused
    cases refused
    exact absurd refuses id
  · rw [answer] at refused
    cases refused

/-- Nothing in memory says so, but the file of a log that was put before has been made empty. -/
theorem untouched_iff_longLog :
    ∃ (s s' : Store) (d d' : Disk) (e : StoreError), Reachable s d ∧
      s.put d (longLog 65536) = (.error e, s', d') ∧ e.Refuses ∧ s' = s ∧
      d'.find (s.pathOf (longLog 65536).id) = .ok (.file .empty) ∧ ¬Untouched s d s' d' := by
  obtain ⟨s, d, d', bytes, back, n, reachable, answer, found, bytes_ne, -⟩ := exists_refused
  obtain ⟨same, -, emptied, -, iff⟩ := untouched_iff reachable answer trivial
  refine ⟨s, s, d, d', _, reachable, answer, trivial, same, emptied (valid_longLog _),
    fun untouched => ?_⟩
  rcases iff.mp untouched with invalid | was
  · rw [valid_longLog] at invalid
    cases invalid
  · rw [found] at was
    injection was with was
    injection was with was
    exact bytes_ne was

/-- A log that was put before could be read from its file, until a longer one of its identifier was
refused. -/
theorem put_loses_older :
    ∃ (s s' : Store) (d d' : Disk) (path : String) (n : Nat), Reachable s d ∧
      s.put d (longLog 65536) = (.error (.codec path (.overflow n .u16)), s', d') ∧
      (∃ bytes back, d.find path = .ok (.file bytes) ∧ Codec.decode bytes = .ok back ∧
        greeting.ReadBack back) ∧
      d'.find path = .ok (.file .empty) ∧ ¬Untouched s d s' d' := by
  obtain ⟨s, d, d', bytes, back, n, reachable, answer, found, bytes_ne, read, same, gone⟩ :=
    exists_refused
  refine ⟨s, s, d, d', _, n, reachable, answer, ⟨bytes, back, found, read, same⟩, gone,
    fun untouched => ?_⟩
  have still := (untouched.files _ bytes).mpr (Disk.find_eq_ok.mp found).2
  rw [(Disk.find_eq_ok.mp gone).2] at still
  injection still with still
  injection still with still
  exact bytes_ne still.symm

end Store

end Scrollback
