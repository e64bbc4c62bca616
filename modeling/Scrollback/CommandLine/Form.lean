/-
Reading a command line by its form.  A form lists the options that may stand on it, how many values
each of them takes, the arguments that stand alone, and the words that end the line and begin the
line of a command.

An option keeps collecting values, until it has all of them or something else comes; only then is it
looked at as a whole (`Reading.settle`), so that of two faults the one in front need not be found
first.
-/
import Scrollback.CommandLine.Error

namespace Scrollback

/-- An option, or an argument that stands alone. -/
structure Slot where
  name : String
  /-- How many values it takes at a time; an option that takes none is a flag. -/
  arity : Nat
  repeatable : Bool := false
  /-- Whether commas divide its values. -/
  divided : Bool := false
  /-- Why a value is refused, if it is. -/
  refusal : String → Option UsageError := fun _ => none

/-- The form of a command line. -/
structure Form where
  options : List Slot
  positional : List Slot
  commands : List String

/-- A command line that has been read so far. -/
structure Reading where
  /-- The values found for each slot, the latest first. -/
  found : List (String × List String)
  /-- The slot that values are collected for, and its values so far. -/
  pending : Option (Slot × List String)
  /-- Whether the next value belongs to the pending option. -/
  wanting : Bool
  /-- Whether options are no longer looked for. -/
  trailing : Bool
  /-- What may still stand alone. -/
  positional : List Slot

/-- What stops a command line: its end, or the word of a command, with what follows it. -/
inductive Stop where
  | finished
  | command (word : String) (rest : List String)

namespace Reading

/-- Nothing has been read. -/
def start (f : Form) : Reading :=
  ⟨[], none, false, false, f.positional⟩

/-- A slot has been found. -/
def has (r : Reading) (name : String) : Bool :=
  r.found.any fun e => e.1 == name

/-- All values of a slot, in order. -/
def valuesOf (r : Reading) (name : String) : List String :=
  (r.found.reverse.filter fun e => e.1 == name).flatMap Prod.snd

/-- The only value of a slot. -/
def valueOf? (r : Reading) (name : String) : Option String :=
  (r.valuesOf name).head?

/-- The parts of a value between commas. -/
def parts (value : String) : List String :=
  (value.toList.splitOn ',').map String.ofList

/-- Take all values that a slot has at one place. -/
def accept (r : Reading) (slot : Slot) (values : List String) : Except UsageError Reading :=
  if slot.arity ≠ 0 ∧ values.isEmpty then .error .emptyValue
  else if values.length ≠ slot.arity then .error .wrongCount
  else
    let values := if slot.divided then values.flatMap parts else values
    if !slot.repeatable && r.has slot.name then .error .conflict
    else
      match values.findSome? slot.refusal with
      | some e => .error e
      | none => .ok { r with found := (slot.name, values) :: r.found }

/-- Take the values that have been collected. -/
def settle (r : Reading) : Except UsageError Reading :=
  match r.pending with
  | none => .ok r
  | some (slot, values) => { r with pending := none }.accept slot values

/-- Take the values that have been collected, and then these. -/
def take (r : Reading) (slot : Slot) (values : List String) : Except UsageError Reading := do
  let r ← r.settle
  accept { r with wanting := false } slot values

/-- Begin to collect the values of a slot. -/
def await (r : Reading) (slot : Slot) (values : List String) (wanting : Bool) :
    Except UsageError Reading := do
  pure { (← r.settle) with pending := some (slot, values), wanting := wanting }

/-- Ask for help; what has been collected is looked at before. -/
def help (r : Reading) : Except UsageError Reading := do
  let _ ← r.settle
  throw .helpAsked

/-- A value for the pending slot. -/
def push (r : Reading) (value : String) : Reading :=
  match r.pending with
  | none => r
  | some (slot, values) =>
    let values := values ++ [value]
    { r with pending := some (slot, values), wanting := values.length < slot.arity }

end Reading

namespace Form

/-- An option by its name. -/
def option? (f : Form) (name : String) : Option Slot :=
  f.options.find? fun o => o.name == name

/-- An option with its value, if one is attached to it; the dashes are left out. -/
def longOption (f : Form) (r : Reading) (text : List Char) : Except UsageError Reading :=
  let name := String.ofList (text.takeWhile (· != '='))
  let value? := if text.contains '=' then some (String.ofList (text.drop (name.length + 1))) else none
  match f.option? name, value? with
  | none, none => if name = "help" then r.help else .error .unknownArgument
  | none, some _ => .error (if name = "help" then .tooManyValues else .unknownArgument)
  | some slot, none => if slot.arity = 0 then r.take slot [] else r.await slot [] true
  | some slot, some value =>
    if slot.arity = 0 then .error .tooManyValues else r.take slot [value]

/-- Letters after a dash; one of them asks for help. -/
def letters (r : Reading) (text : List Char) : Except UsageError Reading :=
  if text.head? = some 'h' then r.help else .error .unknownArgument

/-- An argument that is no option: a value of the pending one, or one that stands alone. -/
def word (f : Form) (r : Reading) (arg : String) : Except UsageError Reading :=
  if r.wanting && !r.trailing then .ok (r.push arg)
  else
    match r.positional with
    | slot :: more => (r.await slot [arg] false).map fun r => { r with positional := more }
    | [] =>
      if f.commands.isEmpty || (r.trailing && f.commands.contains arg) then .error .unknownArgument
      else .error .unknownCommand

/-- Read one argument. -/
def step (f : Form) (r : Reading) (arg : String) : Except UsageError Reading :=
  if r.trailing then f.word r arg
  else
    match arg.toList with
    | ['-', '-'] => .ok { r with trailing := true }
    | '-' :: '-' :: text => f.longOption r text
    | '-' :: c :: text => letters r (c :: text)
    | _ => f.word r arg

/-- Read arguments up to the word of a command. -/
def read (f : Form) (r : Reading) : List String → Except UsageError (Reading × Stop)
  | [] => .ok (r, .finished)
  | arg :: rest =>
    if !r.trailing && !r.wanting && f.commands.contains arg then .ok (r, .command arg rest)
    else do read f (← f.step r arg) rest

end Form

end Scrollback
