/-
JSON values.  Strings are kept as bytes: what is spelled by escapes that do not pair up has no text,
and a reader that does not look at a string does not mind.

Objects keep their members in order, repeated names included.
-/
import Scrollback.Text.Utf8

namespace Scrollback

/-- A number as it is written: `mantissa` with `places` digits after the point, times ten to the
`exponent`; it is `whole` if there is neither a point nor an exponent. -/
structure JsonNumber where
  negative : Bool
  mantissa : Nat
  places : Nat := 0
  exponent : Int := 0
  whole : Bool := true
  deriving DecidableEq, Repr

/-- A JSON value. -/
inductive JsonValue where
  | null
  | bool (b : Bool)
  | number (n : JsonNumber)
  | string (bytes : List UInt8)
  | list (items : List JsonValue)
  | object (members : List (List UInt8 × JsonValue))
  deriving Repr, Inhabited

namespace JsonValue

/-- A text as a value. -/
def ofText (s : String) : JsonValue := .string (utf8 s)

/-- An integer as a value. -/
def ofInt (i : Int) : JsonValue := .number ⟨decide (i < 0), i.natAbs, 0, 0, true⟩

/-- An object with the given members. -/
def ofMembers (members : List (String × JsonValue)) : JsonValue :=
  .object (members.map fun m => (utf8 m.1, m.2))

/-- The text of a string. -/
def asText? : JsonValue → Option String
  | .string bytes => text? bytes
  | _ => none

/-- The value of a number that is written as an integer; zero has no sign. -/
def asInt? : JsonValue → Option Int
  | .number n =>
    if !n.whole || (n.negative && n.mantissa == 0) then none
    else some (if n.negative then -n.mantissa else n.mantissa)
  | _ => none

/-- The values of some fields, by name from an object or by position from a list.  An object may
have other members too, but each field once at most; a list may lack fields at its end. -/
def fields? (names : List String) : JsonValue → Option (List (Option JsonValue))
  | .object members => do
    let known ← members.mapM fun m => (text? m.1).map fun name => (name, m.2)
    names.mapM fun name =>
      match known.filter fun m => m.1 == name with
      | [] => some none
      | [m] => some (some m.2)
      | _ => none
  | .list items =>
    if items.length ≤ names.length then
      some (items.map some ++ List.replicate (names.length - items.length) none)
    else none
  | _ => none

end JsonValue

end Scrollback
