/-
The program: reads the command line, the settings and the logs that are kept, answers the query and
writes back what has changed.  Everything it decides is decided elsewhere.

It has no connections of its own, so that only logs which are kept already can be searched.
-/
import Scrollback.CommandLine.Request
import Scrollback.CommandLine.Session
import Scrollback.CommandLine.Usage
import Scrollback.Disk.Snapshot
import Std.Time.DateTime.Timestamp

namespace Scrollback.Program

/-- The files at some paths. -/
def snapshot (paths : List String) : IO Disk := do
  let files ← paths.filterMapM fun (path : String) => do
    try
      let bytes ← IO.FS.readBinFile path
      pure (some (path, bytes))
    catch _ => pure none
  pure (Disk.ofFiles files)

/-- Write what has changed. -/
def writeBack (before after : Disk) : IO Unit := do
  for dir in after.madeSince before do IO.FS.createDirAll dir
  for (path, bytes) in after.writtenSince before do IO.FS.writeBinFile path bytes
  for path in after.removedSince before do IO.FS.removeFile path

/-- The time. -/
def clock : IO Instant := do
  let t ← Std.Time.Timestamp.now
  pure (Instant.ofMillis t.toMillisecondsSinceUnixEpoch.val)

/-- The directories that the surroundings name. -/
def environment : IO Environment := do
  pure ⟨← IO.getEnv "HOME", ← IO.getEnv "XDG_CONFIG_HOME", ← IO.getEnv "XDG_CACHE_HOME",
    ← IO.getEnv "TMPDIR"⟩

/-- Say what has gone wrong. -/
def fail (message : String) : IO UInt32 := do
  IO.eprintln ("Error: " ++ message)
  pure 1

/-- Answer a query. -/
def answer (s : Session) (verb : Verb) (a : QueryArguments) : IO UInt32 := do
  let list ← snapshot [Path.join s.cacheDir "index.json"]
  match s.openStore list with
  | (.error e, _) => fail ("opening log store in " ++ s.cacheDir ++ ": " ++ e.message)
  | (.ok store, after) =>
    writeBack list after
    match a.toQuery s.now with
    | .error e =>
      let cause := e.cause?.map fun c => "\n\nCaused by:\n    " ++ c.message
      fail (e.message ++ cause.getD "")
    | .ok q =>
      let files ← snapshot (store.indexPath :: store.index.entries.map Prod.snd)
      let (_, before) := files.makeDirectories s.cacheDir
      let (result, after) := s.run verb q store before
      writeBack before after
      match result with
      | none => fail "there is no answer"
      | some result =>
        IO.println result.text
        pure (match result with
          | .failed _ => 1
          | _ => 0)

/-- Do what a command line asks for. -/
def run (args : List String) : IO UInt32 := do
  match Invocation.parse args with
  | .error e =>
    match e.message? with
    | none =>
      IO.print usage
      pure 0
    | some message =>
      IO.eprintln ("error: " ++ message ++ "\n\n" ++ usage)
      pure 2
  | .ok i =>
    let env ← environment
    let before ← snapshot (Settings.pathsOf (i.config.getD env.settingsPath))
    let (settings, after) := Settings.forInvocation i env before
    writeBack before after
    match settings with
    | .error e => fail e.message
    | .ok settings => answer ⟨settings, env, .unreachable, ← clock⟩ i.verb i.arguments

end Scrollback.Program

/-- The program. -/
def main (args : List String) : IO UInt32 :=
  Scrollback.Program.run args
