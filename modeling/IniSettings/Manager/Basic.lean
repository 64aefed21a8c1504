import IniSettings.Document.Scanner
import IniSettings.Saving
import IniSettings.Settings.Table

/-!
# Managers

A manager keeps a table of settings in step with its file: it loads the file into the table, falls
back to the defaults where there is nothing to load, and stores the table as a document of one
section. `Manager.load` never fails; what it had to ignore goes to the log.
-/

namespace IniSettings

structure Observer where
  label : String
  failure : Nat → Option String
  calls : Nat

structure Manager (schema : Schema) where
  path : Path
  mode : WriteMode
  defaults : Values schema
  table : Table schema
  observer : Option Observer

structure Outcome (schema : Schema) (α : Type) where
  manager : Manager schema
  result : Except Abort α

def Document.scanLogged (source text : String) : Script Reading := do
  let reading := Document.scan text
  reading.diagnostics.forM fun diagnostic => Script.log (.malformedLine source diagnostic)
  return reading

/-- A document on the way, and the buffer that the texts of its fields go through. -/
structure Draft where
  document : Document
  buffer : String

namespace Draft

variable {schema : Schema}

def clear (draft : Draft) : Draft :=
  { draft with buffer := "" }

/-- The text of a field goes to the end of what the buffer holds. -/
def read (values : Values schema) (field : schema.Field) (draft : Draft) : Draft :=
  { draft with buffer := draft.buffer ++ values.text field }

def store (index : Nat) (key : String) (draft : Draft) : Except Abort Draft :=
  (draft.document.setAt index key draft.buffer).map fun document => { draft with document }

def write (values : Values schema) (index : Nat) (draft : Draft) (field : schema.Field) :
    Except Abort Draft :=
  (draft.clear.read values field).store index (schema.key field)

end Draft

namespace Manager

variable {schema : Schema}

/-- A manager that has not loaded anything and holds the defaults. -/
def new (path : Path) (defaults : Values schema) : Manager schema :=
  ⟨path, .truncate, defaults, Table.new defaults, none⟩

def withMode (manager : Manager schema) (mode : WriteMode) : Manager schema :=
  { manager with mode }

def observe (manager : Manager schema) (label : String) (failure : Nat → Option String) :
    Manager schema :=
  { manager with observer := some ⟨label, failure, 0⟩ }

def values (manager : Manager schema) : Values schema :=
  manager.table.values

def put (manager : Manager schema) (values : Values schema) : Manager schema :=
  { manager with table := manager.table.put values }

/-- Puts the defaults into the table. The file stays as it is. -/
def reset (manager : Manager schema) : Manager schema :=
  manager.put manager.defaults

/-! ## Loading -/

/-- Reads the fields that the section has, in the order of the table, and counts them. A field
whose text is refused keeps its value. -/
def readFields (path : Path) (content : Section) :
    List schema.Field → Values schema → Nat → Script (Values schema × Nat)
  | [], values, applied => return (values, applied)
  | field :: rest, values, applied =>
    match content.get? (schema.key field) with
    | none => readFields path content rest values applied
    | some written =>
      match values.read? field written with
      | some values => readFields path content rest values (applied + 1)
      | none => do
        Script.log (.valueIgnored path (schema.nameText field) written)
        readFields path content rest values applied

def loadBytes (manager : Manager schema) (bytes : Bytes) : Script (Manager schema) := do
  let reading ← Document.scanLogged manager.path.text (Text.Utf8.decode bytes)
  match reading.document.section? schema.title with
  | none =>
    Script.log (.sectionMissing manager.path schema.title)
    return manager.reset
  | some content =>
    let (values, applied) ← readFields manager.path content schema.fields manager.values 0
    Script.log (.loaded manager.path schema.title applied reading.diagnostics.length)
    return manager.put values

/-- Takes over what reading the file gave. A file that cannot be read is as good as none. -/
def loadReply (manager : Manager schema) : Except IoError Bytes → Script (Manager schema)
  | .error error => do
    Script.log (.unreadable manager.path error)
    return manager.reset
  | .ok bytes => manager.loadBytes bytes

/-- Loads the file and answers whether the table is valid. -/
def load (manager : Manager schema) : Script (Outcome schema Bool) := do
  if manager.table.updating then return ⟨manager, .error .loadInTransaction⟩
  else
    let reply ← Script.ask (.read manager.path)
    let loaded ← manager.loadReply reply
    return ⟨loaded, .ok loaded.table.valid⟩

/-! ## Storing -/

/-- The section that holds the table: the text of every field under its key. Of fields that share
a key the first gives the place and the last the text. -/
def toSection (manager : Manager schema) : Section :=
  schema.fields.foldl
    (fun content field => content.assign (schema.key field) (manager.values.text field))
    (Section.empty schema.title)

def toDocument (manager : Manager schema) : Document :=
  ⟨[manager.toSection]⟩

/-- Builds the document with a buffer that may hold something at the start. -/
def draft (manager : Manager schema) (buffer : String) : Except Abort Draft :=
  let (document, index) := (⟨[]⟩ : Document).openSection schema.title
  schema.fields.foldlM (Draft.write manager.values index) ⟨document, buffer⟩

def store (manager : Manager schema) : Script (Except ConfigError Unit) :=
  manager.toDocument.save manager.path manager.mode

/-! ## Fields by name -/

def field (name : String) : Except ConfigError schema.Field :=
  match schema.named? name with
  | some field => .ok field
  | none => .error (.unknownField name)

def boxed (manager : Manager schema) (name : String) : Except ConfigError BoxedValue :=
  (field name).map manager.values.box

def text (manager : Manager schema) (name : String) : Except ConfigError String :=
  (field name).map manager.values.text

def describe (manager : Manager schema) (backend : String) : String :=
  "ConfigManager \x7b path: " ++ Text.quoted manager.path.text ++
    ", settings: " ++ manager.table.describe ++ ", backend: " ++ backend ++
    ", write_mode: " ++ manager.mode.name ++
    ", observer: " ++ truthText manager.observer.isSome ++ " \x7d"

end Manager

end IniSettings
