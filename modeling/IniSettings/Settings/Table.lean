import IniSettings.Schema
import IniSettings.Settings.ChangeSet

/-!
# Tables of settings

A table holds the values of one schema. It is valid once values were put into it, and while a
transaction is open it marks the fields that change. Putting values marks nothing. An operation
that is aborted leaves the table as it was.
-/

namespace IniSettings

structure Table (schema : Schema) where
  values : Values schema
  valid : Bool
  updating : Bool
  changes : ChangeSet schema.size

namespace Table

variable {schema : Schema}

def new (values : Values schema) : Table schema :=
  ⟨values, false, false, ChangeSet.empty⟩

/-- There are changes of which nobody was told. -/
def hasPending (table : Table schema) : Bool :=
  !table.changes.isEmpty

def put (table : Table schema) (values : Values schema) : Table schema :=
  { table with values, valid := true }

/-- Gives the field a value and marks it, if it had another one. Answers whether it had. -/
def update (table : Table schema) (field : schema.Field)
    (value : (schema.spec field).type.Value) : Except Abort (Bool × Table schema) :=
  if !table.updating then .error .updateOutsideTransaction
  else if table.values field = value then .ok (false, table)
  else
    .ok (true, { table with
      values := table.values.set field value
      changes := (table.changes.insert field).2 })

def unbox (table : Table schema) (field : schema.Field) (boxed : BoxedValue) :
    Except Abort (UnboxResult × Table schema) :=
  if (schema.spec field).isReadOnly then .ok (.permissionDenied, table)
  else
    match (schema.spec field).type.unbox boxed with
    | .error error => .ok (.ofError error, table)
    | .ok value => do
      let (changed, table) ← table.update field value
      return (if changed then .updated else .unchanged, table)

def changesProcessed (table : Table schema) : Except Abort (Table schema) :=
  if table.hasPending then .ok { table with changes := ChangeSet.empty }
  else .error .nothingPending

def beginUpdate (table : Table schema) : Except Abort (Table schema) :=
  if table.updating then .error .transactionOpen else .ok { table with updating := true }

def endUpdate (table : Table schema) : Except Abort (Table schema) :=
  if table.updating then .ok { table with updating := false } else .error .noTransaction

def describeChanges (changes : ChangeSet schema.size) : String :=
  "\x7b" ++ ", ".intercalate (changes.toList.map fun field => (schema.spec field).id) ++ "\x7d"

def describe (table : Table schema) : String :=
  "SettingsStore \x7b values: " ++ table.values.describe ++
    ", valid: " ++ truthText table.valid ++ ", updating: " ++ truthText table.updating ++
    ", changes: " ++ describeChanges table.changes ++ " \x7d"

end Table

end IniSettings
