/-
A store whose memory is a slab behaves as the store whose memory is a list.

A slab `Mirrors` a list if both have come about by the same operations, so that all that is known of
runs of slabs holds of it, and each operation on the two gives one answer and again such a pair.  A
store uses its memory through these operations only.  So the two stores answer alike, write the same
to the disk and end with memories of which one mirrors the other, whatever is done and whatever lies
on the disk (`Store.Shows.run`); by induction so they do in every run from their opening
(`Store.opened_alike`).
-/
import Scrollback.Proofs.Recency.Refinement
import Scrollback.Proofs.Store.Persistent

namespace Scrollback

/-! ### Two memories -/

section

variable {κ α : Type} [DecidableEq κ]

theorem Recency.run_concat (r : Recency κ α) (ops : List (Op κ α)) (op : Op κ α) :
    (r.run (ops ++ [op])).2 = ((r.run ops).2.step op).2 := by
  induction ops generalizing r with
  | nil => rfl
  | cons first ops ih => exact ih _

namespace Slab

variable [Hashable κ] {s : Slab κ α} {r : Recency κ α}

theorem run_concat (s : Slab κ α) (ops : List (Recency.Op κ α)) (op : Recency.Op κ α) :
    (s.run (ops ++ [op])).2 = ((s.run ops).2.step op).2 := by
  induction ops generalizing s with
  | nil => rfl
  | cons first ops ih => exact ih _

/-- The slab and the list have come about by the same operations. -/
def Mirrors (s : Slab κ α) (r : Recency κ α) : Prop :=
  ∃ capacity ops, s = ((Slab.empty capacity).run ops).2 ∧
    r = ((Recency.empty capacity).run ops).2

namespace Mirrors

theorem empty (capacity : Nat) : (Slab.empty capacity : Slab κ α).Mirrors (.empty capacity) :=
  ⟨capacity, [], rfl, rfl⟩

theorem shows (h : s.Mirrors r) : s.Shows r := by
  obtain ⟨capacity, ops, rfl, rfl⟩ := h
  exact ((Shows.empty capacity).run ops).shows

theorem step (h : s.Mirrors r) (op : Recency.Op κ α) : (s.step op).2.Mirrors (r.step op).2 := by
  obtain ⟨capacity, ops, rfl, rfl⟩ := h
  exact ⟨capacity, ops ++ [op], (run_concat _ ops op).symm, (Recency.run_concat _ ops op).symm⟩

end Mirrors

end Slab

end

namespace Store

/-! ### Two stores -/

/-- The first store has in a slab what the second has in a list. -/
structure Shows (t : Store (Slab LogId LogCopy)) (s : Store) : Prop where
  dir_eq : t.dir = s.dir
  cache : t.cache.Mirrors s.cache
  index_eq : t.index = s.index
  mode_eq : t.mode = s.mode

/-- An operation of either store: the answers are the same, and so is what is left. -/
structure Alike {β : Type} (slab : β × Store (Slab LogId LogCopy) × Disk)
    (list : β × Store × Disk) : Prop where
  answer : slab.1 = list.1
  shows : Shows slab.2.1 list.2.1
  disk : slab.2.2 = list.2.2

/-- What an operation is answered with; of opening anew, whether it succeeds. -/
inductive Reply where
  | log (r : Except StoreError Log)
  | count (r : Except StoreError Nat)
  | got (r : Option Log)
  | loaded (r : Except StoreError (Option Log))
  | removed (r : Except StoreError Bool)
  | contained (r : Bool)
  | done (r : Except StoreError Unit)

/-- The answer to an operation. -/
def Op.reply {μ : Type} [Memory μ LogId LogCopy] (s : Store μ) (d : Disk) : Op → Reply
  | put log => .log (s.put d log).1
  | putAll logs => .count (s.putAll d logs).1
  | get id => .got (s.get d id).1
  | load id => .loaded (s.load d id).1
  | remove id => .removed (s.remove d id).1
  | contains id => .contained (s.contains d id).1
  | resize _ => .done (.ok ())
  | saveIndex => .done (s.saveIndex d).1
  | loadIndex => .done (s.loadIndex d).1
  | reopen capacity =>
    let opened : Except StoreError (Store μ) × Disk := openAt d s.dir capacity
    .done (opened.1.map fun _ => ())

/-- The answers to some operations, one after another. -/
def replies {μ : Type} [Memory μ LogId LogCopy] (s : Store μ) (d : Disk) : List Op → List Reply
  | [] => []
  | op :: ops => op.reply s d :: replies (op.run s d).1 (op.run s d).2 ops

/-- Both stores have been opened, or neither, for the same cause. -/
inductive Opened : Except StoreError (Store (Slab LogId LogCopy)) → Except StoreError Store → Prop
  | failed (e : StoreError) : Opened (.error e) (.error e)
  | opened {t : Store (Slab LogId LogCopy)} {s : Store} (h : Shows t s) : Opened (.ok t) (.ok s)

variable {t : Store (Slab LogId LogCopy)} {s : Store} {d : Disk}

/-- What comes next can be looked at with one answer and one disk. -/
theorem Alike.exists_eq {β : Type} {slab : β × Store (Slab LogId LogCopy) × Disk}
    {list : β × Store × Disk} (h : Alike slab list) :
    ∃ b t s d, slab = (b, t, d) ∧ list = (b, s, d) ∧ Shows t s :=
  ⟨list.1, slab.2.1, list.2.1, list.2.2, Prod.ext h.answer (Prod.ext rfl h.disk), rfl, h.shows⟩

namespace Shows

theorem residentIds (h : Shows t s) : t.residentIds = s.residentIds :=
  congrArg (List.map Prod.fst) h.cache.shows.entries

theorem indexPath (h : Shows t s) : t.indexPath = s.indexPath := by
  rw [Store.indexPath, h.dir_eq]
  rfl

theorem pathOf (h : Shows t s) (id : LogId) : t.pathOf id = s.pathOf id := by
  rw [Store.pathOf, h.dir_eq]
  rfl

/-- The memories go on alike, -/
theorem withCache (h : Shows t s) {slab : Slab LogId LogCopy} {list : Recency LogId LogCopy}
    (cache : slab.Mirrors list) : Shows { t with cache := slab } { s with cache := list } :=
  ⟨h.dir_eq, cache, h.index_eq, h.mode_eq⟩

/-- and so do the lists. -/
theorem withIndex (h : Shows t s) (x : StoreIndex) :
    Shows { t with index := x } { s with index := x } :=
  ⟨h.dir_eq, h.cache, rfl, h.mode_eq⟩

/-! ### The list of logs -/

theorem saveIndex (h : Shows t s) (d : Disk) : t.saveIndex d = s.saveIndex d := by
  rw [Store.saveIndex, Store.saveIndex, h.indexPath, h.index_eq]

/-- An operation may end with writing the list. -/
theorem finish {β : Type} (h : Shows t s) (d : Disk) (b : β) :
    Alike (match t.saveIndex d with
      | (.error e, d) => (.error e, t, d)
      | (.ok (), d) => (.ok b, t, d)) (s.finish d b) := by
  rw [Store.finish, h.saveIndex]
  rcases s.saveIndex d with ⟨e | ⟨⟩, d'⟩
  · exact ⟨rfl, h, rfl⟩
  · exact ⟨rfl, h, rfl⟩

theorem loadIndex (h : Shows t s) (d : Disk) : Alike (t.loadIndex d) (s.loadIndex d) := by
  rw [Store.loadIndex, h.indexPath]
  have relisting := s.relisting d
  generalize s.loadIndex d = r at relisting ⊢
  cases relisting with
  | missing read =>
    rw [read]
    exact ⟨rfl, h.withIndex .empty, rfl⟩
  | @unread cause read other =>
    rw [read]
    cases cause with
    | notFound => exact absurd rfl other
    | _ => exact ⟨rfl, h, rfl⟩
  | malformed read parsed =>
    simp only [read, parsed]
    exact ⟨rfl, h, rfl⟩
  | @parsed _ x read parsed =>
    simp only [read, parsed]
    exact ⟨rfl, h.withIndex x, rfl⟩

/-! ### Looking up -/

theorem contains (h : Shows t s) (d : Disk) (id : LogId) :
    Alike (t.contains d id) (s.contains d id) := by
  refine ⟨?_, h, rfl⟩
  show (t.cache.contains id || (t.index.path? id).isSome) = _
  rw [h.cache.shows.contains id, h.index_eq]
  rfl

theorem get (h : Shows t s) (d : Disk) (id : LogId) : Alike (t.get d id) (s.get d id) :=
  ⟨congrArg (Option.bind · LogCopy.memory) (h.cache.shows.get id).answer,
    h.withCache (h.cache.step (.get id)), rfl⟩

theorem load (h : Shows t s) (d : Disk) (id : LogId) : Alike (t.load d id) (s.load d id) := by
  obtain ⟨got, t', s', d', slab, list, h⟩ := (h.get d id).exists_eq
  rw [Store.load, Store.load, slab, list]
  rcases got with - | log
  · dsimp only
    rw [h.index_eq]
    rcases s'.index.path? id with - | path
    · exact ⟨rfl, h, rfl⟩
    · dsimp only
      rcases (LogCopy.ofFile d' id path).load d' with ⟨e | log, copy⟩
      · exact ⟨rfl, h, rfl⟩
      · exact ⟨rfl, ⟨h.dir_eq, h.cache.step (.put id copy), rfl, h.mode_eq⟩, rfl⟩
  · exact ⟨rfl, h, rfl⟩

/-! ### Changing -/

theorem insert (h : Shows t s) (d : Disk) (log : Log) :
    Alike (t.insert d log) (s.insert d log) := by
  rw [Store.insert, Store.insert, h.pathOf, h.mode_eq, h.index_eq]
  split
  · exact ⟨rfl, h, rfl⟩
  · dsimp only
    rcases (LogCopy.ofLog d log (s.pathOf log.id)).save d s.mode with ⟨e | ⟨⟩, copy, d'⟩
    · exact ⟨rfl, h, rfl⟩
    · exact ⟨rfl, ⟨h.dir_eq, h.cache.step (.put log.id copy), rfl, rfl⟩, rfl⟩

theorem put (h : Shows t s) (d : Disk) (log : Log) : Alike (t.put d log) (s.put d log) := by
  obtain ⟨answer, t', s', d', slab, list, h⟩ := (h.insert d log).exists_eq
  rw [Store.put, Store.put, slab, list]
  rcases answer with e | log
  · exact ⟨rfl, h, rfl⟩
  · exact h.finish d' log

theorem insertAll (h : Shows t s) (d : Disk) (logs : List Log) :
    Alike (t.insertAll d logs) (s.insertAll d logs) := by
  rw [Store.insertAll, Store.insertAll]
  generalize 0 = n
  induction logs generalizing t s d n with
  | nil => exact ⟨rfl, h, rfl⟩
  | cons log logs ih =>
    obtain ⟨answer, t', s', d', slab, list, h⟩ := (h.insert d log).exists_eq
    rw [List.foldl_cons, List.foldl_cons, insertNext, insertNext, slab, list]
    rcases answer with e | log
    · exact ih h d' n
    · exact ih h d' (n + 1)

theorem putAll (h : Shows t s) (d : Disk) (logs : List Log) :
    Alike (t.putAll d logs) (s.putAll d logs) := by
  obtain ⟨n, t', s', d', slab, list, h⟩ := (h.insertAll d logs).exists_eq
  rw [Store.putAll, Store.putAll, slab, list]
  dsimp only
  split
  · exact ⟨rfl, h, rfl⟩
  · exact h.finish d' n

theorem remove (h : Shows t s) (d : Disk) (id : LogId) :
    Alike (t.remove d id) (s.remove d id) := by
  have resident : (Memory.remove t.cache id).1 = (Memory.remove s.cache id).1 :=
    (h.cache.shows.remove id).answer
  have cache := h.cache.step (.remove id)
  rw [Store.remove, Store.remove]
  dsimp only
  rw [resident, h.index_eq]
  rcases s.index.path? id with - | path
  · exact ⟨rfl, ⟨h.dir_eq, cache, rfl, h.mode_eq⟩, rfl⟩
  · have shown : Shows { t with cache := (Memory.remove t.cache id).2, index := s.index.erase id }
        { s with cache := (Memory.remove s.cache id).2, index := s.index.erase id } :=
      ⟨h.dir_eq, cache, rfl, h.mode_eq⟩
    dsimp only
    rcases ((Memory.remove s.cache id).1.getD (LogCopy.ofFile d id path)).dropFile d with
      ⟨e | ⟨⟩, copy, d'⟩
    · exact ⟨rfl, shown, rfl⟩
    · exact shown.finish d' true

theorem resize (h : Shows t s) (capacity : Nat) :
    Shows (t.resize capacity) (s.resize capacity) :=
  h.withCache (h.cache.step (.resize capacity))

end Shows

/-! ### Runs -/

/-- One store is opened where the other is. -/
theorem alike_openAt (d : Disk) (dir : String) (capacity : Nat) :
    Opened (openAt d dir capacity).1 (openAt d dir capacity).1 ∧
      (openAt d dir capacity : Except StoreError (Store (Slab LogId LogCopy)) × Disk).2 =
        (openAt d dir capacity : Except StoreError Store × Disk).2 := by
  have blank : Shows ⟨dir, Memory.empty capacity, .empty, none⟩
      ⟨dir, Memory.empty capacity, .empty, none⟩ := ⟨rfl, .empty capacity, rfl, rfl⟩
  rw [openAt, openAt]
  rcases d.makeDirectories dir with ⟨e | ⟨⟩, d'⟩
  · exact ⟨.failed _, rfl⟩
  · obtain ⟨answer, t, s, d'', slab, list, h⟩ := (blank.loadIndex d').exists_eq
    dsimp only
    rw [slab, list]
    rcases answer with e | ⟨⟩
    · exact ⟨.failed e, rfl⟩
    · exact ⟨.opened h, rfl⟩

namespace Shows

/-- No operation tells the two stores apart, whatever lies on the disk. -/
theorem run (h : Shows t s) (d : Disk) (op : Op) :
    op.reply t d = op.reply s d ∧ Shows (op.run t d).1 (op.run s d).1 ∧
      (op.run t d).2 = (op.run s d).2 := by
  cases op with
  | put log =>
    obtain ⟨answer, shows, disk⟩ := h.put d log
    exact ⟨congrArg Reply.log answer, shows, disk⟩
  | putAll logs =>
    obtain ⟨answer, shows, disk⟩ := h.putAll d logs
    exact ⟨congrArg Reply.count answer, shows, disk⟩
  | get id =>
    obtain ⟨answer, shows, disk⟩ := h.get d id
    exact ⟨congrArg Reply.got answer, shows, disk⟩
  | load id =>
    obtain ⟨answer, shows, disk⟩ := h.load d id
    exact ⟨congrArg Reply.loaded answer, shows, disk⟩
  | remove id =>
    obtain ⟨answer, shows, disk⟩ := h.remove d id
    exact ⟨congrArg Reply.removed answer, shows, disk⟩
  | contains id =>
    obtain ⟨answer, shows, disk⟩ := h.contains d id
    exact ⟨congrArg Reply.contained answer, shows, disk⟩
  | resize capacity => exact ⟨rfl, h.resize capacity, rfl⟩
  | saveIndex =>
    have saved := h.saveIndex d
    exact ⟨congrArg (Reply.done ∘ Prod.fst) saved, h, congrArg Prod.snd saved⟩
  | loadIndex =>
    obtain ⟨answer, shows, disk⟩ := h.loadIndex d
    exact ⟨congrArg Reply.done answer, shows, disk⟩
  | reopen capacity =>
    have opened := alike_openAt d s.dir capacity
    rw [Op.reply, Op.reply, Op.run, Op.run, h.dir_eq]
    generalize (openAt d s.dir capacity : Except StoreError (Store (Slab LogId LogCopy)) × Disk) =
      slab at opened ⊢
    generalize (openAt d s.dir capacity : Except StoreError Store × Disk) = list at opened ⊢
    rcases slab with ⟨slab, d'⟩
    rcases list with ⟨list, d''⟩
    obtain ⟨opened, rfl⟩ := opened
    cases opened with
    | failed e => exact ⟨rfl, h, rfl⟩
    | opened anew => exact ⟨rfl, anew, rfl⟩

theorem runAll (h : Shows t s) (d : Disk) (ops : List Op) :
    replies t d ops = replies s d ops ∧ Shows (t.runAll d ops).1 (s.runAll d ops).1 ∧
      (t.runAll d ops).2 = (s.runAll d ops).2 := by
  induction ops generalizing t s d with
  | nil => exact ⟨rfl, h, rfl⟩
  | cons op ops ih =>
    obtain ⟨reply, shows, disk⟩ := h.run d op
    obtain ⟨others, rest⟩ := ih shows (op.run t d).2
    rw [disk] at others rest
    refine ⟨?_, ?_⟩
    · rw [replies, replies, reply, disk, others]
    · rw [Store.runAll, Store.runAll, disk]
      exact rest

end Shows

/-- A store over a slab and a store over a list are opened on a directory, or neither is, and a mode
is set or not.  Whatever is done to them then, they give the same answers and leave the same files,
and in memory they have the same logs in the same order; the slab has come about by operations that
the list has gone through too. -/
theorem opened_alike (d : Disk) (dir : String) (capacity : Nat) :
    (∀ e, (openAt d dir capacity : Except StoreError (Store (Slab LogId LogCopy)) × Disk).1 =
        .error e ↔ (openAt d dir capacity : Except StoreError Store × Disk).1 = .error e) ∧
    ∀ (t : Store (Slab LogId LogCopy)) (d' : Disk), openAt d dir capacity = (.ok t, d') →
      ∃ s : Store, openAt d dir capacity = (.ok s, d') ∧ ∀ (mode : Option Mode) (ops : List Op),
        let t := { t with mode := mode }
        let s := { s with mode := mode }
        replies t d' ops = replies s d' ops ∧ (t.runAll d' ops).2 = (s.runAll d' ops).2 ∧
          (t.runAll d' ops).1.residentIds = (s.runAll d' ops).1.residentIds ∧
          (t.runAll d' ops).1.cache.Mirrors (s.runAll d' ops).1.cache := by
  have opened := alike_openAt d dir capacity
  generalize (openAt d dir capacity : Except StoreError (Store (Slab LogId LogCopy)) × Disk) =
    slab at opened ⊢
  generalize (openAt d dir capacity : Except StoreError Store × Disk) = list at opened ⊢
  rcases slab with ⟨slab, d₁⟩
  rcases list with ⟨list, d₂⟩
  obtain ⟨opened, rfl⟩ := opened
  cases opened with
  | failed e =>
    refine ⟨fun cause => ⟨?_, ?_⟩, by rintro _ _ ⟨⟩⟩
    · rintro ⟨⟩
      rfl
    · rintro ⟨⟩
      rfl
  | @opened t s h =>
    refine ⟨fun e => ⟨by rintro ⟨⟩, by rintro ⟨⟩⟩, ?_⟩
    rintro _ _ ⟨⟩
    refine ⟨s, rfl, fun mode ops => ?_⟩
    have moded : Shows { t with mode := mode } { s with mode := mode } :=
      ⟨h.dir_eq, h.cache, h.index_eq, rfl⟩
    obtain ⟨answers, shows, disk⟩ := moded.runAll d₁ ops
    exact ⟨answers, disk, shows.residentIds, shows.cache⟩

end Store

end Scrollback
