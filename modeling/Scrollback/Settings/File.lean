/-
Settings files.  The format of a file follows from the extension of its name; a file of another name
says nothing.  If there is no file of the given name, the known extensions are tried in turn.  A
missing file says nothing either.

Where no file is named, it is the one of the user, which is made if it is missing.
-/
import Scrollback.Disk.Basic
import Scrollback.Settings.Basic
import Scrollback.Settings.Merge
import Scrollback.Settings.OfJson
import Scrollback.Toml.Reader
import Scrollback.Yaml.Block

namespace Scrollback

/-- What the surroundings say about directories. -/
structure Environment where
  home : Option String
  configHome : Option String
  cacheHome : Option String
  temporary : Option String
  deriving DecidableEq, Repr

namespace Environment

/-- The user's directory; without one, the current directory. -/
def homeDir (e : Environment) : String :=
  e.home.getD "."

/-- The user's settings file. -/
def settingsPath (e : Environment) : String :=
  Path.join (Path.join (e.configHome.getD (Path.join e.homeDir ".config")) "chatlog") "config.toml"

/-- The directory for kept logs. -/
def cacheDir (e : Environment) : String :=
  Path.join (e.cacheHome.getD (Path.join e.homeDir ".cache")) "chatlog"

/-- The directory for pastes. -/
def pasteDir (e : Environment) : String :=
  Path.join (e.temporary.getD "/tmp") "chatlog-paste"

end Environment

/-- The formats of settings files. -/
inductive SettingsFormat where
  | toml
  | json
  | yaml
  /-- A format that is known and not read. -/
  | unread
  deriving DecidableEq, Repr

namespace SettingsFormat

/-- The known extensions, in the order in which they are tried. -/
def extensions : List (String × SettingsFormat) :=
  [("toml", .toml), ("json", .json), ("yaml", .yaml), ("yml", .yaml), ("ini", .unread),
    ("ron", .unread), ("json5", .unread)]

/-- The format that a path asks for. -/
def ofPath? (path : String) : Option SettingsFormat :=
  Path.extension? path >>= fun ext => extensions.lookup ext

/-- The settings that a text spells. -/
def parse? (text : String) : SettingsFormat → Option Setting
  | .toml => Toml.parse? text.toList
  | .json => JsonValue.parse? (utf8 text) >>= JsonValue.setting? JsonValue.maxDepth
  | .yaml => Yaml.parse? text.toList
  | .unread => none

end SettingsFormat

namespace Settings

/-- The paths next to a path, with one more extension each. -/
def alternatives (path : String) : List (String × SettingsFormat) :=
  match Path.fileName? path with
  | none => []
  | some name =>
    let dir := (Path.parent? path).getD ""
    SettingsFormat.extensions.map fun e => (Path.join dir (name ++ "." ++ e.1), e.2)

/-- The file for a path, with its format. -/
def locate? (d : Disk) (path : String) : Option (String × SettingsFormat) :=
  if d.isFile path then (SettingsFormat.ofPath? path).map fun f => (path, f)
  else (alternatives path).find? fun a => d.isFile a.1

/-- The text of a file, without a mark of its encoding. -/
def textOfBytes (bytes : List UInt8) : String :=
  lossyText (if bytes.take 3 = [0xEF, 0xBB, 0xBF] then bytes.drop 3 else bytes)

/-- What the file for a path says. -/
def entriesAt (d : Disk) (path : String) : Except SettingsError (List (String × Setting)) :=
  match locate? d path with
  | none => .ok []
  | some (path, format) =>
    match d.read path with
    | .error _ => .ok []
    | .ok bytes =>
      match format.parse? (textOfBytes bytes.data.toList) with
      | some (.table entries) => .ok entries
      | _ => .error .malformed

/-- The settings that hold with the file for a path. -/
def loadFrom (d : Disk) (path : String) : Except SettingsError Settings := do
  let entries ← entriesAt d path
  ofSetting (Setting.fileOver entries base)

/-- Make the user's settings file, if it is missing. -/
def ensureFile (d : Disk) (path : String) : Except SettingsError Unit × Disk :=
  if (d.find path).isOk then (.ok (), d)
  else
    match d.makeDirectories ((Path.parent? path).getD "") with
    | (.error e, d) => (.error (.disk e), d)
    | (.ok (), d) =>
      match d.write path baseText.toUTF8 with
      | .ok d => (.ok (), d)
      | .error e => (.error (.disk e), d)

/-- The settings that hold with the user's file, which is made if it is missing. -/
def load (e : Environment) (d : Disk) : Except SettingsError Settings × Disk :=
  match ensureFile d e.settingsPath with
  | (.error e, d) => (.error e, d)
  | (.ok (), d) => (loadFrom d e.settingsPath, d)

/-- The directory for kept logs. -/
def cacheDir (s : Settings) (e : Environment) : String :=
  if s.cache.dir.isEmpty then e.cacheDir else s.cache.dir

/-- The directory for pastes. -/
def resolvedPasteDir (s : Settings) (e : Environment) : String :=
  if s.pasteDir.isEmpty then e.pasteDir else s.pasteDir

end Settings

end Scrollback
