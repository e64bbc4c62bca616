/-
Logs that are kept: every one has a file of its own in the directory of the store, the ones used
last are in memory too, and a list of all of them is kept in a further file.

An operation takes the store and the disk and leaves both, also when it fails.  The memory is a list
of copies, or any other one that answers as the list does.
-/
import Scrollback.Recency.Memory
import Scrollback.Store.Copy
import Scrollback.Store.Index

namespace Scrollback

/-- The logs kept in a directory. -/
structure Store (μ : Type := Recency LogId LogCopy) where
  dir : String
  /-- The logs in memory. -/
  cache : μ
  /-- The logs on the disk. -/
  index : StoreIndex
  /-- The mode that logs are written in; if it is not given, the narrowest that holds them. -/
  mode : Option Mode

namespace Store

variable {μ : Type}

/-! ### Files -/

/-- The path of the list of all logs. -/
def indexPath (s : Store μ) : String :=
  Path.join s.dir "index.json"

/-- How a byte of a channel or a user stands in a file's name: small letters, digits and hyphens
stand for themselves, so that no two names differ by case alone. -/
def nameByte (b : UInt8) : List Char :=
  let c := Char.ofNat b.toNat
  if ('a' ≤ c && c ≤ 'z') || isDigit c || c == '-' then [c]
  else
    let n := b.toNat
    let digit (d : Nat) : Char := (Nat.digitChar d).toUpper
    ['%', digit (n / 16), digit (n % 16)]

/-- A channel or a user as a part of a file's name. -/
def namePart (s : String) : List Char :=
  (utf8 s).flatMap nameByte

/-- The name of a log's file: channel, start and end of the period, and the user if there is one. -/
def fileName (id : LogId) : String :=
  let user := if id.isUserLog then '_' :: namePart id.user else []
  String.ofList (namePart id.channel) ++ "_" ++ signedDecimal id.period.start ++ "_" ++
    signedDecimal id.period.stop ++ String.ofList user ++ ".bin"

/-- The path of a log's file. -/
def pathOf (s : Store μ) (id : LogId) : String :=
  Path.join s.dir (fileName id)

/-! ### The list of all logs -/

/-- Write the list. -/
def saveIndex (s : Store μ) (d : Disk) : Except StoreError Unit × Disk :=
  match d.write s.indexPath s.index.toBytes with
  | .ok d => (.ok (), d)
  | .error e => (.error (.disk s.indexPath e), d)

/-- Read the list; a missing file stands for an empty one. -/
def loadIndex (s : Store μ) (d : Disk) : Except StoreError Unit × Store μ × Disk :=
  match d.read s.indexPath with
  | .error .notFound => (.ok (), { s with index := .empty }, d)
  | .error e => (.error (.disk s.indexPath e), s, d)
  | .ok bytes =>
    match StoreIndex.ofBytes? bytes with
    | some index => (.ok (), { s with index := index }, d)
    | none => (.error .bookkeeping, s, d)

variable [Memory μ LogId LogCopy]

/-- Open the store of a directory, which is made if it is missing. -/
def openAt (d : Disk) (dir : String) (capacity : Nat) : Except StoreError (Store μ) × Disk :=
  match d.makeDirectories dir with
  | (.error e, d) => (.error (.disk dir e), d)
  | (.ok (), d) =>
    match loadIndex ⟨dir, Memory.empty capacity, .empty, none⟩ d with
    | (.error e, _, d) => (.error e, d)
    | (.ok (), s, d) => (.ok s, d)

/-! ### Looking up -/

/-- Whether a log is in memory or on the disk. -/
def contains (s : Store μ) (d : Disk) (id : LogId) : Bool × Store μ × Disk :=
  (Memory.contains s.cache id || (s.index.path? id).isSome, s, d)

/-- A log from memory. -/
def get (s : Store μ) (d : Disk) (id : LogId) : Option Log × Store μ × Disk :=
  let (copy, cache) := Memory.get s.cache id
  (copy.bind LogCopy.memory, { s with cache := cache }, d)

/-- A log from memory or from the disk; nothing if the store does not have it. -/
def load (s : Store μ) (d : Disk) (id : LogId) : Except StoreError (Option Log) × Store μ × Disk :=
  match s.get d id with
  | (some log, s, d) => (.ok (some log), s, d)
  | (none, s, d) =>
    match s.index.path? id with
    | none => (.ok none, s, d)
    | some path =>
      match (LogCopy.ofFile d id path).load d with
      | (.error e, _) => (.error e, s, d)
      | (.ok log, copy) => (.ok (some log), { s with cache := (Memory.put s.cache id copy).2 }, d)

/-! ### Changing -/

/-- Write a log to its file and bring it into memory. -/
def insert (s : Store μ) (d : Disk) (log : Log) : Except StoreError Log × Store μ × Disk :=
  if !log.valid then (.error (.invalidLog log.id), s, d)
  else
    let path := s.pathOf log.id
    match (LogCopy.ofLog d log path).save d s.mode with
    | (.error e, _, d) => (.error e, s, d)
    | (.ok (), copy, d) =>
      (.ok log,
        { s with
          index := s.index.insert log.id path
          cache := (Memory.put s.cache log.id copy).2 }, d)

/-- Keep a log. -/
def put (s : Store μ) (d : Disk) (log : Log) : Except StoreError Log × Store μ × Disk :=
  match s.insert d log with
  | (.error e, s, d) => (.error e, s, d)
  | (.ok log, s, d) =>
    match s.saveIndex d with
    | (.error e, d) => (.error e, s, d)
    | (.ok (), d) => (.ok log, s, d)

/-- One log among several to be written: how many have been so far, and what has become of the store
and the disk. -/
def insertNext : Nat × Store μ × Disk → Log → Nat × Store μ × Disk
  | (n, s, d), log =>
    match s.insert d log with
    | (.ok _, s, d) => (n + 1, s, d)
    | (.error _, s, d) => (n, s, d)

/-- Write several logs, passing over those that cannot be kept, and count the others. -/
def insertAll (s : Store μ) (d : Disk) (logs : List Log) : Nat × Store μ × Disk :=
  logs.foldl insertNext (0, s, d)

/-- Keep several logs, those that can be kept: how many there were.  The list is written once. -/
def putAll (s : Store μ) (d : Disk) (logs : List Log) : Except StoreError Nat × Store μ × Disk :=
  let (n, s, d) := s.insertAll d logs
  if n = 0 then (.ok 0, s, d)
  else
    match s.saveIndex d with
    | (.error e, d) => (.error e, s, d)
    | (.ok (), d) => (.ok n, s, d)

/-- Forget a log in memory, on the disk and in the list: whether there was one. -/
def remove (s : Store μ) (d : Disk) (id : LogId) : Except StoreError Bool × Store μ × Disk :=
  -- memory comes first: it forgets the log even if the file cannot be removed
  let (resident, cache) := Memory.remove s.cache id
  let s := { s with cache := cache }
  match s.index.path? id with
  | none => (.ok resident.isSome, s, d)
  | some path =>
    let s := { s with index := s.index.erase id }
    match (resident.getD (LogCopy.ofFile d id path)).dropFile d with
    | (.error e, _, d) => (.error e, s, d)
    | (.ok (), _, d) =>
      match s.saveIndex d with
      | (.error e, d) => (.error e, s, d)
      | (.ok (), d) => (.ok true, s, d)

/-- Set how many logs may be in memory. -/
def resize (s : Store μ) (capacity : Nat) : Store μ :=
  { s with cache := (Memory.resize s.cache capacity).2 }

/-- The logs in memory, the one used last first. -/
def residentIds (s : Store μ) : List LogId := Memory.keys s.cache

end Store

end Scrollback
