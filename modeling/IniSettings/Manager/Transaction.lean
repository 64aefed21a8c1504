import IniSettings.Manager.Scope

/-!
# Requests in a transaction

The holder of a scope asks it to change fields, by their places or by their names, and each request
is answered. `Manager.transaction` opens a scope, makes the requests, and ends it in some way.
-/

namespace IniSettings

variable {schema : Schema}

inductive Request (schema : Schema) where
  | update (field : schema.Field) (value : (schema.spec field).type.Value)
  | unbox (name : String) (boxed : BoxedValue)

abbrev Request.Reply : Request schema → Type
  | .update _ _ => Bool
  | .unbox _ _ => UnboxResult

structure Exchange (schema : Schema) where
  request : Request schema
  reply : request.Reply

/-- The field that was changed, going by the reply. -/
def Exchange.changed? : Exchange schema → Option schema.Field
  | ⟨.update field _, changed⟩ => if changed then some field else none
  | ⟨.unbox name _, result⟩ => if result = .updated then schema.named? name else none

/-- A request of one who knows the fields by their names. -/
def Request.ofBox (write : String × BoxedValue) : Request schema :=
  .unbox write.1 write.2

namespace Scope

def answer (scope : Scope schema) :
    (request : Request schema) → Except Abort request.Reply × Scope schema
  | .update field value => scope.update field value
  | .unbox name boxed => scope.unbox name boxed

/-- Answers the requests one after another, up to one that is aborted. -/
def serve (scope : Scope schema) :
    List (Request schema) → Except Abort (List (Exchange schema)) × Scope schema
  | [] => (.ok [], scope)
  | request :: rest =>
    match scope.answer request with
    | (.error abort, scope) => (.error abort, scope)
    | (.ok reply, scope) =>
      let (exchanges, scope) := scope.serve rest
      (exchanges.map (⟨request, reply⟩ :: ·), scope)

end Scope

inductive Ending where
  | commit
  | drop
  | returning
  | raising (message : String)
deriving DecidableEq, Repr

namespace Manager

def transaction (manager : Manager schema) (origin : Origin) (requests : List (Request schema)) :
    Ending → Script (Manager schema)
  | .commit => do
    match manager.beginUpdate origin with
    | .error _ => return manager
    | .ok scope => return (← (scope.serve requests).2.commit).manager
  | .drop => do
    match manager.beginUpdate origin with
    | .error _ => return manager
    | .ok scope => return (← (scope.serve requests).2.drop).manager
  | .returning => do
    return (← manager.withUpdate origin fun scope => scope.serve requests).manager
  | .raising message => do
    return (← manager.withUpdate origin fun scope =>
      ((.error (.raised message) : Except Abort Unit), (scope.serve requests).2)).manager

/-- A transaction of those requests that is committed. -/
def commit (manager : Manager schema) (origin : Origin) (requests : List (Request schema)) :
    Script (Outcome schema (Except ConfigError Bool)) := do
  match manager.beginUpdate origin with
  | .error abort => return ⟨manager, .error abort⟩
  | .ok scope => (scope.serve requests).2.commit

end Manager

end IniSettings
