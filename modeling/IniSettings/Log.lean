import IniSettings.ConfigError
import IniSettings.Document.Reading
import IniSettings.Text.Quoted

/-!
# The log

What is worth a line in the log, each with its level, its message and its named values.
-/

namespace IniSettings

inductive Origin where
  /-- The program itself. -/
  | here
  | remote (peer : String)
deriving DecidableEq, Repr

def Origin.display : Origin → String
  | .here => "local"
  | .remote peer => "remote:" ++ peer

inductive LogLevel where
  | error
  | warn
  | info
  | debug
deriving DecidableEq, Repr

def LogLevel.name : LogLevel → String
  | .error => "error"
  | .warn => "warn"
  | .info => "info"
  | .debug => "debug"

inductive LogEntry where
  | malformedLine (source : String) (diagnostic : Diagnostic)
  | unreadable (path : Path) (error : IoError)
  | sectionMissing (path : Path) (title : String)
  /-- A text of the file that the type of its field refuses. -/
  | valueIgnored (path : Path) (field text : String)
  | loaded (path : Path) (title : String) (applied diagnostics : Nat)
  | written (path : Path) (sections : Nat)
  | writeFailed (path : Path) (error : IoError)
  | moveFailed (path temporary : Path) (error : IoError)
  /-- A file that was written in part could not be removed. -/
  | removeFailed (path : Path) (error : IoError)
  | updateNotStored (origin : Origin) (error : ConfigError)
deriving DecidableEq, Repr

namespace LogEntry

def level : LogEntry → LogLevel
  | .malformedLine .. => .error
  | .unreadable .. => .info
  | .sectionMissing .. => .info
  | .valueIgnored .. => .warn
  | .loaded .. => .info
  | .written .. => .debug
  | .writeFailed .. => .error
  | .moveFailed .. => .error
  | .removeFailed .. => .warn
  | .updateNotStored .. => .error

def message : LogEntry → String
  | .malformedLine _ diagnostic => diagnostic.defect.message
  | .unreadable _ error => "config not readable (" ++ error.message ++ "), using defaults"
  | .sectionMissing _ title => "no [" ++ title ++ "] section, using defaults"
  | .valueIgnored _ _ text => "ignoring invalid value " ++ Text.quoted text
  | .loaded .. => "config loaded"
  | .written .. => "config written"
  | .writeFailed _ error => "failed to write config: " ++ error.message
  | .moveFailed _ temporary error =>
    "failed to move " ++ temporary.text ++ " into place: " ++ error.message
  | .removeFailed _ error => "failed to remove partial config file: " ++ error.message
  | .updateNotStored _ error => "config update could not be stored: " ++ error.message

def values : LogEntry → List (String × String)
  | .malformedLine source diagnostic =>
    [("source", source), ("line", toString diagnostic.line)]
  | .unreadable path _ => [("path", path.text)]
  | .sectionMissing path _ => [("path", path.text)]
  | .valueIgnored path field _ => [("path", path.text), ("field", field)]
  | .loaded path title applied diagnostics =>
    [("path", path.text), ("section", title), ("applied", toString applied),
      ("diagnostics", toString diagnostics)]
  | .written path sections => [("path", path.text), ("sections", toString sections)]
  | .writeFailed path _ => [("path", path.text)]
  | .moveFailed path _ _ => [("path", path.text)]
  | .removeFailed path _ => [("path", path.text)]
  | .updateNotStored origin _ => [("origin", origin.display)]

end LogEntry

end IniSettings
