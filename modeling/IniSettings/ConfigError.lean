import IniSettings.Storage.IoError
import IniSettings.Storage.Path

/-!
# Errors of a configuration

Storing can fail while the file is written or while it is moved into place, and a name can belong
to no field.
-/

namespace IniSettings

inductive ConfigError where
  | write (path : Path) (cause : IoError)
  | replace (path : Path) (cause : IoError)
  | unknownField (name : String)
deriving DecidableEq, Repr

namespace ConfigError

def message : ConfigError → String
  | .write path cause => "failed to write config to " ++ path.text ++ ": " ++ cause.message
  | .replace path cause =>
    "failed to replace " ++ path.text ++ " with the freshly written config: " ++ cause.message
  | .unknownField name => "unknown config field: " ++ name

def cause? : ConfigError → Option IoError
  | .write _ cause => some cause
  | .replace _ cause => some cause
  | .unknownField _ => none

end ConfigError

end IniSettings
