/-
Why settings cannot be used: the file is not well formed, it cannot be made, or a setting is not what
it should be.  The place of a setting is given by the names that lead to it.
-/
import Scrollback.Disk.Error
import Scrollback.Settings.Value
import Scrollback.Text.Quoted

namespace Scrollback

/-- What is wrong with a setting. -/
inductive SettingFault where
  /-- It is something else than what is wanted. -/
  | mistyped (found wanted : String)
  /-- It has no parts. -/
  | notStructured (found record : String)
  /-- It has fewer parts than it must have. -/
  | tooShort (count : Nat) (record : String) (parts : Nat)
  | missing (name : String)
  /-- It is none of the words that may stand there. -/
  | unknownWord (choice word : String)
  /-- It is no word at all. -/
  | noWord (choice : String)
  deriving DecidableEq, Repr

/-- Why settings cannot be used. -/
inductive SettingsError where
  /-- The file is not well formed. -/
  | malformed
  | disk (cause : DiskError)
  | faulty (fault : SettingFault) (key : String)
  deriving DecidableEq, Repr

/-- The wording of a fault. -/
def SettingFault.message : SettingFault → String
  | .mistyped found wanted => "invalid type: " ++ found ++ ", expected " ++ wanted
  | .notStructured found record => "invalid type: " ++ found ++ ", expected struct " ++ record
  | .tooShort count record parts =>
    "invalid length " ++ decimal count ++ ", expected struct " ++ record ++ " with " ++
      decimal parts ++ (if parts = 1 then " element" else " elements")
  | .missing name => "missing field `" ++ name ++ "`"
  | .unknownWord choice word =>
    "enum " ++ choice ++ " does not have variant constructor " ++ word
  | .noWord choice =>
    "value of enum " ++ choice ++
      " should be represented by either string or table with exactly one key"

/-- The wording of a failure. -/
def SettingsError.message : SettingsError → String
  | .malformed => "malformed settings"
  | .disk cause => cause.message
  | .faulty fault key => fault.message ++ " for key `" ++ key ++ "`"

namespace Setting

/-- What a setting is, where another kind of value is wanted. -/
def kind : Setting → String
  | .unit => "unit value"
  | .bool b => if b then "boolean `true`" else "boolean `false`"
  | .integer i => "64-bit integer `" ++ signedDecimal i ++ "`"
  | .real x => "floating point `" ++ x.text ++ "`"
  | .text s => "string " ++ quoted s
  | .list _ => "sequence"
  | .table _ => "map"

/-- What a setting is, where several parts are wanted. -/
def plainKind : Setting → String
  | .integer i => "integer `" ++ signedDecimal i ++ "`"
  | .real x => "floating point `" ++ x.pointedText ++ "`"
  | s => s.kind

end Setting

end Scrollback
