/-
Settings from JSON.  An integer that is too great is a number with a fraction, and so is the negative
zero; a number that is too great even for that is refused, as is a value nested too deep.
-/
import Scrollback.Json.Reader
import Scrollback.Settings.Value

namespace Scrollback.JsonValue

/-- How deep lists and objects may be nested. -/
def maxDepth : Nat := 127

/-- A number as a setting. -/
def settingOfNumber? (n : JsonNumber) : Option Setting :=
  let i : Int := if n.negative then -n.mantissa else n.mantissa
  let plain := if n.whole && !(n.negative && n.mantissa == 0) then Setting.integer? i else none
  match plain, Binary64.ofDecimal n.negative n.mantissa (n.exponent - n.places) with
  | some v, _ => some v
  | none, .finite negative units => some (.real (.finite negative units))
  | none, _ => none

mutual

/-- A value as a setting, if it is nested no deeper than `depth`. -/
def setting? (depth : Nat) : JsonValue → Option Setting
  | .null => some .unit
  | .bool b => some (.bool b)
  | .number n => settingOfNumber? n
  | .string bytes => (text? bytes).map .text
  | .list items =>
    match depth with
    | 0 => none
    | depth + 1 => (settings? depth items).map .list
  | .object members =>
    match depth with
    | 0 => none
    | depth + 1 => (entries? depth members).map Setting.ofEntries

/-- Several values as settings. -/
def settings? (depth : Nat) : List JsonValue → Option (List Setting)
  | [] => some []
  | x :: rest => do
    let v ← setting? depth x
    (settings? depth rest).map (v :: ·)

/-- The members of an object as entries. -/
def entries? (depth : Nat) : List (List UInt8 × JsonValue) → Option (List (String × Setting))
  | [] => some []
  | (name, x) :: rest => do
    let name ← text? name
    let v ← setting? depth x
    (entries? depth rest).map ((name, v) :: ·)

end

end Scrollback.JsonValue
