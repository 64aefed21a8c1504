import IniSettings.Settings.Table

/-!
# Operations on a table

`Table.perform` does an operation to a table and keeps the table if the operation is aborted.
`Table.inPlace` does the same to a table that is changed in place, one assignment after another,
where what was assigned before an abort stays.
-/

namespace IniSettings

variable {schema : Schema}

namespace Table

inductive Operation (schema : Schema) where
  | put (values : Values schema)
  | update (field : schema.Field) (value : (schema.spec field).type.Value)
  | unbox (field : schema.Field) (boxed : BoxedValue)
  | changesProcessed
  | beginUpdate
  | endUpdate

abbrev Operation.Reply : Operation schema → Type
  | .update _ _ => Bool
  | .unbox _ _ => UnboxResult
  | _ => Unit

def answer (table : Table schema) :
    (operation : Operation schema) → Except Abort (operation.Reply × Table schema)
  | .put values => .ok ((), table.put values)
  | .update field value => table.update field value
  | .unbox field boxed => table.unbox field boxed
  | .changesProcessed => table.changesProcessed.map fun later => ((), later)
  | .beginUpdate => table.beginUpdate.map fun later => ((), later)
  | .endUpdate => table.endUpdate.map fun later => ((), later)

/-- How the operation is answered, and the table that it leaves. -/
def perform (table : Table schema) (operation : Operation schema) :
    Except Abort operation.Reply × Table schema :=
  match table.answer operation with
  | .ok (reply, later) => (.ok reply, later)
  | .error abort => (.error abort, table)

namespace InPlace

abbrev Program (schema : Schema) (α : Type) :=
  EStateM Abort (Table schema) α

def outcome {α : Type} (program : Program schema α) (table : Table schema) :
    Except Abort α × Table schema :=
  match program.run table with
  | .ok reply later => (.ok reply, later)
  | .error abort later => (.error abort, later)

def demand (holds : Bool) (abort : Abort) : Program schema Unit :=
  if holds then pure () else throw abort

def put (values : Values schema) : Program schema Unit := do
  modify fun table => { table with values }
  modify fun table => { table with valid := true }

def update (field : schema.Field) (value : (schema.spec field).type.Value) :
    Program schema Bool := do
  demand (← get).updating .updateOutsideTransaction
  if (← get).values field = value then return false
  else
    modify fun table => { table with values := table.values.set field value }
    modify fun table => { table with changes := (table.changes.insert field).2 }
    return true

def unbox (field : schema.Field) (boxed : BoxedValue) : Program schema UnboxResult := do
  if (schema.spec field).isReadOnly then return .permissionDenied
  else
    match (schema.spec field).type.unbox boxed with
    | .error error => return .ofError error
    | .ok value => return if ← update field value then .updated else .unchanged

def changesProcessed : Program schema Unit := do
  demand (← get).hasPending .nothingPending
  modify fun table => { table with changes := ChangeSet.empty }

def beginUpdate : Program schema Unit := do
  demand (!(← get).updating) .transactionOpen
  modify fun table => { table with updating := true }

def endUpdate : Program schema Unit := do
  demand (← get).updating .noTransaction
  modify fun table => { table with updating := false }

end InPlace

def inPlace : (operation : Operation schema) → InPlace.Program schema operation.Reply
  | .put values => InPlace.put values
  | .update field value => InPlace.update field value
  | .unbox field boxed => InPlace.unbox field boxed
  | .changesProcessed => InPlace.changesProcessed
  | .beginUpdate => InPlace.beginUpdate
  | .endUpdate => InPlace.endUpdate

end Table

end IniSettings
