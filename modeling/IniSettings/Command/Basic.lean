import IniSettings.Command.Error
import IniSettings.Manager.Scope

/-!
# Commands

What a user can do with a table and its file: show all fields, get one, set one, go back to the
defaults, and check the file. Text that a command prints is part of its answer.
-/

namespace IniSettings

inductive Problem where
  | malformedLine (diagnostic : Diagnostic)
  | sectionMissing (title : String)
  | unknownKey (title key : String)
  | invalidValue (text field : String)
deriving DecidableEq, Repr

def Problem.message (source : String) : Problem → String
  | .malformedLine diagnostic =>
    source ++ ":" ++ toString diagnostic.line ++ ": " ++ diagnostic.defect.message
  | .sectionMissing title => source ++ ": no [" ++ title ++ "] section, defaults apply"
  | .unknownKey title key => source ++ ": [" ++ title ++ "] unknown key " ++ Text.quoted key
  | .invalidValue text field =>
    source ++ ": invalid value " ++ Text.quoted text ++ " for " ++ field

namespace Command

variable {schema : Schema}

def lines (texts : List String) : String :=
  String.join (texts.map (· ++ "\n"))

/-! ## Showing -/

def showLine (values : Values schema) (field : schema.Field) : String :=
  let marker := if (schema.spec field).isReadOnly then " (read-only)" else ""
  schema.nameText field ++ " = " ++ values.text field ++ marker

/-- A field as a JSON object within an array. -/
def fieldReport (values : Values schema) (field : schema.Field) : String :=
  Json.spread "  "
    [("name", Json.quote (schema.nameText field)),
      ("key", Json.quote (schema.key field)),
      ("read_only", truthText (schema.spec field).isReadOnly),
      ("value", Json.spread "    " (values.box field).members)]

def showFields (manager : Manager schema) (json : Bool) : String :=
  if json then
    lines [Json.spreadArray "" (schema.fields.map (fieldReport manager.values))]
  else lines (schema.fields.map (showLine manager.values))

def get (manager : Manager schema) (name : String) (json : Bool) : Except CommandError String :=
  match Manager.field name with
  | .error error => .error (.config error)
  | .ok field =>
    if json then .ok (lines [(manager.values.box field).toJson])
    else .ok (lines [manager.values.text field])

/-! ## Changing -/

def setResult (path : Path) (name : String) :
    Except ConfigError UnboxResult → Except CommandError UnboxResult
  | .error error => .error (.notStored path error)
  | .ok result => if result.isAccepted then .ok result else .error (.rejected name result)

/-- Gives a field the value that a text stands for, and stores the file if that is a change. -/
def set (manager : Manager schema) (name text : String) :
    Script (Outcome schema (Except CommandError UnboxResult)) := do
  match manager.boxed name with
  | .error error => return ⟨manager, .ok (.error (.config error))⟩
  | .ok current =>
    match Argument.box current.kind text with
    | .error error => return ⟨manager, .ok (.error (.invalidValue name error))⟩
    | .ok boxed =>
      let updated ← manager.withUpdate .here fun scope => scope.unbox name boxed
      return ⟨updated.manager, updated.result.map (setResult manager.path name)⟩

def reset (manager : Manager schema) : Script (Manager schema × Except CommandError Unit) := do
  let manager := manager.reset
  let stored ← manager.store
  return (manager, stored.mapError (.notStored manager.path))

/-! ## Checking -/

def pairProblem (schema : Schema) (pair : String × String) : Option Problem :=
  match schema.keyed? pair.1 with
  | none => some (.unknownKey schema.title pair.1)
  | some field =>
    match (schema.spec field).type.parse? pair.2 with
    | none => some (.invalidValue pair.2 (schema.nameText field))
    | some _ => none

def problems (schema : Schema) (reading : Reading) : List Problem :=
  reading.diagnostics.map .malformedLine ++
    match reading.document.section? schema.title with
    | none => [.sectionMissing schema.title]
    | some content => content.pairs.filterMap (pairProblem schema)

/-- Looks through the file. Nothing is changed. -/
def check (manager : Manager schema) : Script (Except CommandError (List Problem)) := do
  match ← Script.ask (.read manager.path) with
  | .error error => return .error (.unreadable manager.path error)
  | .ok bytes => return .ok (problems schema (Document.scan (Text.Utf8.decode bytes)))

def report (manager : Manager schema) (problems : List Problem) : String :=
  lines (problems.map (Problem.message manager.path.text))

end Command

end IniSettings
