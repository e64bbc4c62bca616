/-
The settings of the program: where each service is reached, how logs are kept, and where texts are
pasted.  `Settings.ofSetting` reads them from a tree of settings, in which a number may also be
written as a text, a truth value or a fraction, a text as a number, and a section as a list of its
parts in order.
-/
import Scrollback.Codec.Format
import Scrollback.Service
import Scrollback.Settings.Error

namespace Scrollback

/-- How logs are kept. -/
structure CacheSettings where
  /-- The directory; if it is empty, the one that the surroundings suggest. -/
  dir : String
  capacity : Nat
  /-- The mode that logs are written in, if it is not to be chosen log by log. -/
  mode : Option Mode
  deriving DecidableEq, Repr

/-- The settings of the program. -/
structure Settings where
  gempir : Endpoint
  overrustle : Endpoint
  cache : CacheSettings
  /-- The directory of pastes; if it is empty, the one that the surroundings suggest. -/
  pasteDir : String
  deriving DecidableEq, Repr

namespace Settings

/-- Where a service is reached. -/
def endpoint (s : Settings) : Service → Endpoint
  | .gempir => s.gempir
  | .overrustle => s.overrustle

/-! ### What holds without a file -/

/-- The port if none is given. -/
def defaultPort : Nat := 443

/-- How many logs are kept in memory if it is not said. -/
def defaultCapacity : Nat := 64

/-- A service and its host as a section. -/
def hostSection (host : String) : Setting :=
  .table [("host", .text host), ("port", .integer defaultPort)]

/-- The settings that hold where a file says nothing else. -/
def base : Setting :=
  .table [
    ("gempir", hostSection "api.gempir.com"),
    ("overrustle", hostSection "overrustlelogs.net"),
    ("cache", .table [("dir", .text ""), ("capacity", .integer defaultCapacity),
      ("format", .text "auto")]),
    ("paste", .table [("dir", .text "")])]

/-- The same settings as a file. -/
def baseText : String :=
  "[gempir]\nhost = \"api.gempir.com\"\nport = 443\n\n" ++
    "[overrustle]\nhost = \"overrustlelogs.net\"\nport = 443\n\n" ++
    "[cache]\ndir      = \"\"\ncapacity = 64\nformat   = \"auto\"\n\n" ++
    "[paste]\ndir = \"\"\n"

/-! ### Reading leaves -/

/-- A setting read as what it should be. -/
abbrev Read (α : Type) := Setting → Except SettingFault α

/-- A text; numbers and truth values have one too. -/
def textOf : Read String
  | .text s => .ok s
  | .bool b => .ok (if b then "true" else "false")
  | .integer i => .ok (signedDecimal i)
  | .real x => .ok x.text
  | s => .error (.mistyped s.kind "a string")

/-- The words that count as one, and those that count as zero. -/
def oneWords : List String := ["true", "on", "yes"]

def zeroWords : List String := ["false", "off", "no"]

/-- The number that a text stands for. -/
def wordOf? (s : String) : Option Nat :=
  let low := String.ofList (s.toList.map Service.asciiLower)
  if oneWords.contains low then some 1
  else if zeroWords.contains low then some 0
  else
    wordOfDigits UInt64.size (match s.toList with
      | '+' :: ds => ds
      | ds => ds)

/-- A number of 64 bits. -/
def numberOf : Read Nat
  | .integer i =>
    if 0 ≤ i then .ok i.toNat
    else .error (.mistyped (Setting.integer i).kind "an unsigned 64 bit or less integer")
  | .real x => .ok (x.toNat (UInt64.size - 1))
  | .bool b => .ok (if b then 1 else 0)
  | .text s =>
    match wordOf? s with
    | some n => .ok n
    | none => .error (.mistyped (Setting.text s).kind "an integer")
  | s => .error (.mistyped s.kind "an integer")

/-- A number of 16 bits. -/
def portOf : Read Nat := fun s => do
  let n ← numberOf s
  if n < UInt16.size then pure n
  else throw (.mistyped ("64-bit unsigned integer `" ++ decimal n ++ "`")
    "an unsigned 16 bit integer")

/-- The words for the ways of writing logs. -/
def modeWords : List (String × Option Mode) :=
  [("auto", none), ("u16", some .u16), ("u32", some .u32), ("u64", some .u64)]

/-- A way of writing logs: its word, or a table with the word for its only name. -/
def modeOf : Read (Option Mode)
  | .text s => ofWord s
  | .table [(name, _)] => ofWord name
  | _ => .error (.noWord "FormatChoice")
where
  /-- The way of writing logs that a word stands for. -/
  ofWord (word : String) : Except SettingFault (Option Mode) :=
    match modeWords.lookup word with
    | some m => .ok m
    | none => .error (.unknownWord "FormatChoice" word)

/-! ### Reading sections -/

/-- The parts of a section that has these names, with what leads to each of them; it may be written
as a table or as a list. -/
def partsOf (record : String) (names : List String) (s : Setting) :
    Except SettingFault (List (String × Option Setting)) :=
  match s with
  | .table entries => .ok (names.map fun n => (n, entries.lookup n))
  | .list items =>
    .ok ((List.range names.length).map fun i => ("[" ++ decimal i ++ "]", items[i]?))
  | s => .error (.notStructured s.plainKind record)

/-- A key with what leads further into it. -/
def keyOf (key part : String) : String :=
  if part.startsWith "[" then key ++ part else key ++ "." ++ part

/-- Read one part of a section, if it is there. -/
def partOf {α : Type} (key : String) (read : Read α) (default : Except SettingsError α)
    (part : String × Option Setting) : Except SettingsError α :=
  match part.2 with
  | none => default
  | some s => (read s).mapError fun e => .faulty e (keyOf key part.1)

/-- The fault of a section without its first part. -/
def firstMissing (record name : String) (parts : Nat) (s : Setting) : SettingFault :=
  match s with
  | .list _ => .tooShort 0 record parts
  | _ => .missing name

/-- Read the section of a service. -/
def endpointOf (key : String) (s : Setting) : Except SettingsError Endpoint := do
  let faulty := fun e => SettingsError.faulty e key
  match ← (partsOf "ServiceConfig" ["host", "port"] s).mapError faulty with
  | [host, port] =>
    let missing := firstMissing "ServiceConfig" "host" 2 s
    let host ← partOf key textOf (.error (faulty missing)) host
    let port ← partOf key portOf (.ok defaultPort) port
    pure ⟨host, port⟩
  | _ => pure ⟨"", defaultPort⟩

/-- Read the section on how logs are kept. -/
def cacheOf (key : String) (s : Setting) : Except SettingsError CacheSettings := do
  let faulty := fun e => SettingsError.faulty e key
  match ← (partsOf "CacheConfig" ["dir", "capacity", "format"] s).mapError faulty with
  | [dir, capacity, format] =>
    let dir ← partOf key textOf (.ok "") dir
    let capacity ← partOf key numberOf (.ok defaultCapacity) capacity
    let mode ← partOf key modeOf (.ok none) format
    pure ⟨dir, capacity, mode⟩
  | _ => pure ⟨"", defaultCapacity, none⟩

/-- Read the section on pastes. -/
def pasteOf (key : String) (s : Setting) : Except SettingsError String := do
  let faulty := fun e => SettingsError.faulty e key
  match ← (partsOf "PasteConfig" ["dir"] s).mapError faulty with
  | [dir] => partOf key textOf (.ok "") dir
  | _ => pure ""

/-- Read the settings; names that are not known do not matter. -/
def ofSetting (s : Setting) : Except SettingsError Settings := do
  let part (name : String) : Setting := (s.entry? name).getD (.table [])
  let gempir ← endpointOf "gempir" (part "gempir")
  let overrustle ← endpointOf "overrustle" (part "overrustle")
  let cache ← cacheOf "cache" (part "cache")
  let paste ← pasteOf "paste" (part "paste")
  pure ⟨gempir, overrustle, cache, paste⟩

/-- The settings that hold without any file. -/
def defaults : Settings :=
  ⟨⟨"api.gempir.com", defaultPort⟩, ⟨"overrustlelogs.net", defaultPort⟩,
    ⟨"", defaultCapacity, none⟩, ""⟩

theorem ofSetting_base : ofSetting base = .ok defaults := rfl

end Settings

end Scrollback
