/-
Identifiers as JSON: `{"channel": …, "period": {"begin": …, "end": …}, "user": …}`.

Reading is wider than writing: fields may come in any order, or by position in a list, the user
may be left out, and members with other names are passed over.
-/
import Scrollback.Json.Reader
import Scrollback.Json.Writer
import Scrollback.Log.Id

namespace Scrollback

/-- A period as JSON. -/
def Period.toJson (p : Period) : JsonValue :=
  .ofMembers [("begin", .ofInt p.start), ("end", .ofInt p.stop)]

/-- The period of a JSON value. -/
def Period.ofJson? (v : JsonValue) : Option Period := do
  match ← v.fields? ["begin", "end"] with
  | [some start, some stop] => (Period.make? (← start.asInt?) (← stop.asInt?)).toOption
  | _ => none

namespace LogId

/-- An identifier as JSON. -/
def toJson (id : LogId) : JsonValue :=
  .ofMembers [("channel", .ofText id.channel), ("period", id.period.toJson),
    ("user", .ofText id.user)]

/-- The identifier of a JSON value. -/
def ofJson? (v : JsonValue) : Option LogId := do
  match ← v.fields? ["channel", "period", "user"] with
  | [some channel, some period, user] =>
    let user ← match user with
      | none => some ""
      | some user => user.asText?
    pure ⟨← channel.asText?, ← Period.ofJson? period, user⟩
  | _ => none

end LogId

end Scrollback
