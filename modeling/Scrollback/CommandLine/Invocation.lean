/-
What a command line asks for.  It names one of two commands, and after the command what to search
for: a pattern and channels, and either users or everybody.
-/
import Scrollback.CommandLine.Form
import Scrollback.Service

namespace Scrollback

/-- What is to be done with the lines that match. -/
inductive Verb where
  | count
  | find
  deriving DecidableEq, Repr

/-- The word for a command. -/
def Verb.word : Verb → String
  | .count => "count"
  | .find => "find"

/-- The command of a word. -/
def Verb.ofWord? (word : String) : Option Verb :=
  [Verb.count, .find].find? fun v => v.word == word

/-- What stands after a command. -/
structure QueryArguments where
  pattern : String
  channels : List String
  users : List String
  allUsers : Bool
  /-- The bounds of the period, two each time that it is given. -/
  period : Option (List String)
  caseless : Bool
  regex : Bool
  service : Service
  deriving DecidableEq, Repr

/-- A command line that can be run. -/
structure Invocation where
  debug : Bool
  /-- The file with the settings. -/
  config : Option String
  verb : Verb
  arguments : QueryArguments
  deriving DecidableEq, Repr

namespace QueryArguments

/-- A value that names no service is refused. -/
def refuseService (value : String) : Option UsageError :=
  if (Service.ofName? value).isSome then none else some .invalidValue

/-- The form of what stands after a command. -/
def form : Form where
  options := [
    { name := "channel", arity := 1, repeatable := true, divided := true },
    { name := "user", arity := 1, repeatable := true, divided := true },
    { name := "all-users", arity := 0 },
    { name := "period", arity := 2, repeatable := true },
    { name := "caseless", arity := 0 },
    { name := "regex", arity := 0 },
    { name := "service", arity := 1, refusal := refuseService }]
  positional := [{ name := "pattern", arity := 1 }]
  commands := []

/-- The arguments that have been read, if they go together and none is missing. -/
def ofReading (r : Reading) : Except UsageError QueryArguments :=
  if r.has "user" && r.has "all-users" then .error .conflict
  else
    match r.valueOf? "pattern" with
    | none => .error .missingArgument
    | some pattern =>
      if !r.has "channel" || !(r.has "user" || r.has "all-users") then .error .missingArgument
      else
        .ok {
          pattern := pattern
          channels := r.valuesOf "channel"
          users := r.valuesOf "user"
          allUsers := r.has "all-users"
          period := if r.has "period" then some (r.valuesOf "period") else none
          caseless := r.has "caseless"
          regex := r.has "regex"
          service := ((r.valueOf? "service").bind Service.ofName?).getD .gempir }

/-- Read what stands after a command. -/
def parse (args : List String) : Except UsageError QueryArguments := do
  let (r, _) ← form.read (.start form) args
  ofReading (← r.settle)

end QueryArguments

namespace Invocation

/-- A path is not empty. -/
def refuseEmpty (value : String) : Option UsageError :=
  if value.isEmpty then some .emptyValue else none

/-- The form of what stands before a command. -/
def form : Form where
  options := [
    { name := "debug", arity := 0 },
    { name := "config", arity := 1, refusal := refuseEmpty }]
  positional := []
  commands := ["count", "find", "help"]

/-- Help on a command, if the words name one. -/
def helpOn : List String → UsageError
  | [] => .helpAsked
  | [word] => if form.commands.contains word then .helpAsked else .unknownCommand
  | _ => .unknownCommand

/-- Read a command line.  What is wrong after the command is found before what is still to be looked
at in front of it. -/
def parse (args : List String) : Except UsageError Invocation := do
  match ← form.read (.start form) args with
  | (r, .finished) =>
    let r ← r.settle
    throw (if r.found.isEmpty then .nothingAsked else .missingCommand)
  | (r, .command word rest) =>
    match Verb.ofWord? word with
    | none => throw (helpOn rest)
    | some verb =>
      let arguments ← QueryArguments.parse rest
      let r ← r.settle
      pure ⟨r.has "debug", r.valueOf? "config", verb, arguments⟩

end Invocation

end Scrollback
