import SqlTemplate.Config.Basic
import SqlTemplate.Table

/-!
# SqlTemplate.Config.Settings

Settings read from a value: an object with the settings by name, or a list with them in order.
Other members of the object do not matter, but a list may not be longer than the settings are.
-/

namespace SqlTemplate.Config

/-- A setting that is null is not set. -/
def ofSetting? : Value → Option Config
  | .null => some {}
  | .string pattern => some { injectionFilter := some pattern }
  | _ => none

def ofSettings? : Value → Option Config
  | .object members =>
    match Table.get? members "injection_filter" with
    | none => some {}
    | some setting => ofSetting? setting
  | .array [] => some {}
  | .array [setting] => ofSetting? setting
  | _ => none

end SqlTemplate.Config
