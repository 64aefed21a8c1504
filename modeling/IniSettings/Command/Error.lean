import IniSettings.Command.Argument
import IniSettings.ConfigError
import IniSettings.Field.Unbox

/-!
# Errors of commands

Why a command failed. A chain is the message of an error, then that of its cause, and so on.
-/

namespace IniSettings

def ConfigError.chain (error : ConfigError) : List String :=
  error.message :: (error.cause?.map IoError.message).toList

inductive CommandError where
  | config (error : ConfigError)
  | invalidValue (name : String) (cause : ArgumentError)
  | notStored (path : Path) (cause : ConfigError)
  | rejected (name : String) (result : UnboxResult)
  | unreadable (path : Path) (cause : IoError)
deriving DecidableEq, Repr

namespace CommandError

def message : CommandError → String
  | .config error => error.message
  | .invalidValue name _ => "invalid value for " ++ name
  | .notStored path _ => "failed to store " ++ path.text
  | .rejected name result => "cannot set " ++ name ++ ": " ++ result.display
  | .unreadable path _ => "cannot read " ++ path.text

def causes : CommandError → List String
  | .config error => (error.cause?.map IoError.message).toList
  | .invalidValue _ cause => cause.chain
  | .notStored _ cause => cause.chain
  | .rejected .. => []
  | .unreadable _ cause => [cause.message]

def chain (error : CommandError) : List String :=
  error.message :: error.causes

/-- The error comes of a name that belongs to no field. -/
def isUnknownField : CommandError → Bool
  | .config (.unknownField _) => true
  | .notStored _ (.unknownField _) => true
  | _ => false

end CommandError

end IniSettings
