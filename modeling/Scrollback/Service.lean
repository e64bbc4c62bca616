/-
The services that keep chat logs: their names, the targets that they can be asked for, and the
path that asks for each.
-/
import Scrollback.Log.Id

namespace Scrollback

/-- A service that serves logs. -/
inductive Service where
  | gempir
  | overrustle
  deriving DecidableEq, Repr

/-- Where a service is reached. -/
structure Endpoint where
  host : String
  port : Nat
  deriving DecidableEq, Repr

/-- One log to ask for: what it is the log of, and the path that serves it. -/
structure Target where
  id : LogId
  path : String
  deriving DecidableEq, Repr

namespace Service

/-- Every service. -/
def all : List Service := [.gempir, .overrustle]

/-- The name of a service. -/
def name : Service → String
  | .gempir => "gempir"
  | .overrustle => "overrustle"

/-- Lower-case an ASCII letter; other characters stay. -/
def asciiLower (c : Char) : Char :=
  if 'A' ≤ c && c ≤ 'Z' then Char.ofNat (c.toNat + 32) else c

/-- The service of exactly this name. -/
def ofExactName? (name : String) : Option Service :=
  all.find? fun s => s.name == name

/-- The service of this name, whatever the case of its ASCII letters. -/
def ofName? (name : String) : Option Service :=
  all.find? fun s => s.name.toList == name.toList.map asciiLower

/-! ### Paths -/

/-- How a character stands in a path; the ones that would end the path or start an escape are
escaped themselves. -/
def pathChar (c : Char) : List Char :=
  if c = ' ' then ['%', '2', '0']
  else if c = '#' then ['%', '2', '3']
  else if c = '?' then ['%', '3', 'F']
  else if c = '%' then ['%', '2', '5']
  else [c]

/-- A path with its characters escaped. -/
def escapePath (path : String) : String :=
  String.ofList (path.toList.flatMap pathChar)

/-- The log of one user in one month. -/
def monthlyTarget (s : Service) (channel user : String) (m : YearMonth) : Target :=
  let year := signedDecimal m.year
  let path := match s with
    | .gempir =>
      "/channel/" ++ channel ++ "/user/" ++ user ++ "/" ++ year ++ "/" ++ decimal m.month
    | .overrustle =>
      "/" ++ channel ++ " chatlog/" ++ m.name ++ " " ++ year ++ "/userlogs/" ++ user ++ ".txt"
  ⟨⟨channel, Period.month m, user⟩, escapePath path⟩

/-- The log of everybody on one day. -/
def dailyTarget (s : Service) (channel : String) (d : Date) : Target :=
  let year := signedDecimal d.year
  let path := match s with
    | .gempir =>
      "/channel/" ++ channel ++ "/" ++ year ++ "/" ++ decimal d.month ++ "/" ++ decimal d.day
    | .overrustle =>
      "/" ++ channel ++ " chatlog/" ++ monthName d.month ++ " " ++ year ++ "/" ++
        String.ofList d.text ++ ".txt"
  ⟨⟨channel, Period.day d, ""⟩, escapePath path⟩

end Service

end Scrollback
