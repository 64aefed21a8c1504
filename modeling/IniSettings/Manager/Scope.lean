import IniSettings.Manager.Basic

/-!
# Transactions

A scope is an open transaction of a manager. Fields change in it one by one, and when it is closed
all changes are stored and the observer is told of them, once. A scope that is dropped is closed
too, unless it was closed before, and a store error then goes to the log. A scope that is leaked
is never closed and leaves the transaction open.
-/

namespace IniSettings

structure Scope (schema : Schema) where
  manager : Manager schema
  origin : Origin
  closed : Bool

namespace Manager

variable {schema : Schema}

def beginUpdate (manager : Manager schema) (origin : Origin) : Except Abort (Scope schema) := do
  let table ← manager.table.beginUpdate
  return ⟨{ manager with table }, origin, false⟩

/-- Tells the observer, if there is one, which fields changed. The observer may give up. -/
def tellObserver (manager : Manager schema) (origin : Origin) : Script (Outcome schema Unit) := do
  match manager.observer with
  | none => return ⟨manager, .ok ()⟩
  | some observer =>
    let observer := { observer with calls := observer.calls + 1 }
    Script.notify ⟨observer.label, origin, manager.table.changes.toList.map Fin.val⟩
    let manager := { manager with observer := some observer }
    match observer.failure observer.calls with
    | none => return ⟨manager, .ok ()⟩
    | some message => return ⟨manager, .error (.raised message)⟩

/-- Stores the changes, tells the observer, and marks the changes as processed. -/
def processChanges (manager : Manager schema) (origin : Origin) :
    Script (Outcome schema (Except ConfigError Bool)) := do
  let stored ← manager.store
  let told ← manager.tellObserver origin
  match told.result with
  | .error abort => return ⟨told.manager, .error abort⟩
  | .ok () =>
    match told.manager.table.changesProcessed with
    | .error abort => return ⟨told.manager, .error abort⟩
    | .ok table => return ⟨{ told.manager with table }, .ok (stored.map fun () => true)⟩

/-- Ends the transaction. Without changes nothing is stored and nobody told. -/
def finishUpdate (manager : Manager schema) (origin : Origin) :
    Script (Outcome schema (Except ConfigError Bool)) :=
  match manager.table.endUpdate with
  | .error abort => return ⟨manager, .error abort⟩
  | .ok table =>
    let manager := { manager with table }
    if table.hasPending then manager.processChanges origin
    else return ⟨manager, .ok (.ok false)⟩

end Manager

namespace Scope

variable {schema : Schema}

def withTable (scope : Scope schema) (table : Table schema) : Scope schema :=
  { scope with manager := { scope.manager with table } }

def hasPending (scope : Scope schema) : Bool :=
  scope.manager.table.hasPending

def update (scope : Scope schema) (field : schema.Field) (value : (schema.spec field).type.Value) :
    Except Abort Bool × Scope schema :=
  match scope.manager.table.update field value with
  | .error abort => (.error abort, scope)
  | .ok (changed, table) => (.ok changed, scope.withTable table)

def unbox (scope : Scope schema) (name : String) (boxed : BoxedValue) :
    Except Abort UnboxResult × Scope schema :=
  match schema.named? name with
  | none => (.ok .keyUnknown, scope)
  | some field =>
    match scope.manager.table.unbox field boxed with
    | .error abort => (.error abort, scope)
    | .ok (result, table) => (.ok result, scope.withTable table)

/-! ## The end of a scope -/

def close (scope : Scope schema) :
    Script (Scope schema × Except Abort (Except ConfigError Bool)) := do
  let finished ← scope.manager.finishUpdate scope.origin
  return (⟨finished.manager, scope.origin, true⟩, finished.result)

/-- What happens to a scope that nobody holds any longer. -/
def drop (scope : Scope schema) : Script (Outcome schema Unit) := do
  if scope.closed then return ⟨scope.manager, .ok ()⟩
  else
    let (scope, result) ← scope.close
    match result with
    | .error abort => return ⟨scope.manager, .error abort⟩
    | .ok (.error error) =>
      Script.log (.updateNotStored scope.origin error)
      return ⟨scope.manager, .ok ()⟩
    | .ok (.ok _) => return ⟨scope.manager, .ok ()⟩

def commit (scope : Scope schema) : Script (Outcome schema (Except ConfigError Bool)) := do
  let (scope, result) ← scope.close
  let dropped ← scope.drop
  return ⟨dropped.manager, result⟩

def leak (scope : Scope schema) : Manager schema :=
  scope.manager

end Scope

/-- Opens a scope, applies the changes to it and commits it. If they are cut short what was
changed before is stored all the same. -/
def Manager.withUpdate {schema : Schema} {α : Type} (manager : Manager schema) (origin : Origin)
    (apply : Scope schema → Except Abort α × Scope schema) :
    Script (Outcome schema (Except ConfigError α)) := do
  match manager.beginUpdate origin with
  | .error abort => return ⟨manager, .error abort⟩
  | .ok scope =>
    match apply scope with
    | (.error abort, scope) =>
      let dropped ← scope.drop
      return ⟨dropped.manager, .error (abort.ending dropped.result)⟩
    | (.ok value, scope) =>
      let committed ← scope.commit
      return ⟨committed.manager, committed.result.map fun stored => stored.map fun _ => value⟩

end IniSettings
