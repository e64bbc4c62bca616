/-
From settings to an answer: the store that the settings name is opened, the query is run, and what
it pastes is written to the directory for pastes.
-/
import Scrollback.CommandLine.Invocation
import Scrollback.Query.Run
import Scrollback.Settings.File

namespace Scrollback

namespace Settings

/-- The paths that a settings file may be found at. -/
def pathsOf (path : String) : List String :=
  path :: (alternatives path).map Prod.fst

/-- The settings for a command line: those of the file it names, or of the user's file. -/
def forInvocation (i : Invocation) (e : Environment) (d : Disk) :
    Except SettingsError Settings × Disk :=
  match i.config with
  | some path => (loadFrom d path, d)
  | none => load e d

end Settings

/-- What queries of one run are answered with. -/
structure Session where
  settings : Settings
  environment : Environment
  network : Network
  now : Instant

namespace Session

/-- The directory for kept logs. -/
def cacheDir (s : Session) : String :=
  s.settings.cacheDir s.environment

/-- Open the store. -/
def openStore (s : Session) (d : Disk) : Except StoreError Store × Disk :=
  let (r, d) := Store.openAt d s.cacheDir s.settings.cache.capacity
  (r.map fun store => { store with mode := s.settings.cache.mode }, d)

/-- The directory for pastes, which has been given none yet. -/
def pastes (s : Session) : PasteDir :=
  ⟨s.settings.resolvedPasteDir s.environment, 0⟩

/-- The place of a text among the pastes. -/
def paste (s : Session) (d : Disk) (text : String) : Except PasteError String × Disk :=
  let (r, _, d) := s.pastes.write d s.now.epochMillis text.toUTF8
  (r, d)

/-- What a query is run with. -/
def surroundings (s : Session) (d : Disk) : Surroundings where
  endpoint? service := some (s.settings.endpoint service)
  network := s.network
  now := s.now
  paste text := (s.paste d text).1

/-- Run a query: its answer, and the disk after it. -/
def run (s : Session) (verb : Verb) (q : Query) (store : Store) (d : Disk) :
    Option Answer × Disk :=
  let w := s.surroundings d
  let shelf : Shelf := ⟨some store, d⟩
  let answered := match verb with
    | .count => w.count q shelf
    | .find => w.find q shelf
  (answered.answers.head?,
    answered.pastes.foldl (fun d text => (s.paste d text).2) answered.shelf.disk)

end Session

end Scrollback
