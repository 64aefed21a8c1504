import IniSettings.Manager.Transaction
import IniSettings.Proofs.Schema
import IniSettings.Proofs.Settings.ChangeSet

/-!
# What is asked of a scope

While a transaction is open no request is aborted: the values are those given by the requests in
their order, and the marks are on the fields whose requests were answered with a change.
-/

namespace IniSettings

variable {schema : Schema}

theorem Exchange.filterMap_changed?_cons (exchange : Exchange schema)
    (rest : List (Exchange schema)) :
    (exchange :: rest).filterMap Exchange.changed? =
      exchange.changed?.toList ++ rest.filterMap Exchange.changed? := by
  rw [List.filterMap_cons]
  cases exchange.changed? <;> rfl

namespace Values

def giveBoxed (values : Values schema) (field : schema.Field) (boxed : BoxedValue) :
    Values schema :=
  if (schema.spec field).isReadOnly then values
  else
    match (schema.spec field).type.unbox boxed with
    | .error _ => values
    | .ok value => values.set field value

def give (values : Values schema) : Request schema → Values schema
  | .update field value => values.set field value
  | .unbox name boxed =>
    match schema.named? name with
    | none => values
    | some field => values.giveBoxed field boxed

end Values

namespace Table

variable {table : Table schema}

def marking (table : Table schema) (values : Values schema) (fields : List schema.Field) :
    Table schema :=
  { table with values, changes := table.changes.insertAll fields }

theorem update_of_same (opened : table.updating = true) {field : schema.Field}
    {value : (schema.spec field).type.Value} (same : table.values field = value) :
    table.update field value = .ok (false, table) := by
  have passed : ¬ (!table.updating) = true := by simp [opened]
  rw [update, if_neg passed, if_pos same]

theorem update_of_different (opened : table.updating = true) {field : schema.Field}
    {value : (schema.spec field).type.Value} (different : table.values field ≠ value) :
    table.update field value =
      .ok (true, table.marking (table.values.set field value) [field]) := by
  have passed : ¬ (!table.updating) = true := by simp [opened]
  rw [update, if_neg passed, if_neg different]
  rfl

theorem update_eq (opened : table.updating = true) (field : schema.Field)
    (value : (schema.spec field).type.Value) :
    ∃ changed, table.update field value = .ok (changed,
      table.marking (table.values.set field value) (if changed then [field] else [])) := by
  by_cases same : table.values field = value
  · refine ⟨false, ?_⟩
    rw [update_of_same opened same, Values.set_eq_self same]
    rfl
  · exact ⟨true, update_of_different opened same⟩

theorem unbox_eq (opened : table.updating = true) (field : schema.Field) (boxed : BoxedValue) :
    ∃ result, table.unbox field boxed = .ok (result,
      table.marking (table.values.giveBoxed field boxed)
        (if result = .updated then [field] else [])) := by
  rw [unbox, Values.giveBoxed]
  cases (schema.spec field).isReadOnly with
  | true => exact ⟨.permissionDenied, rfl⟩
  | false =>
    cases (schema.spec field).type.unbox boxed with
    | error error =>
      refine ⟨.ofError error, ?_⟩
      cases error <;> rfl
    | ok value =>
      obtain ⟨changed, updated⟩ := update_eq opened field value
      refine ⟨if changed then .updated else .unchanged, ?_⟩
      rw [if_neg (by decide)]
      dsimp only
      rw [updated]
      cases changed <;> rfl

theorem unbox_writable (opened : table.updating = true) {field : schema.Field}
    (writable : (schema.spec field).isReadOnly = false) (boxed : BoxedValue) :
    ∃ result changed,
      table.unbox field boxed =
        .ok (result, table.marking (table.values.giveBoxed field boxed) changed) ∧
      (result.isAccepted = true ↔ ∃ value, (schema.spec field).type.unbox boxed = .ok value) := by
  rw [unbox, Values.giveBoxed, writable, if_neg (by decide), if_neg (by decide)]
  cases (schema.spec field).type.unbox boxed with
  | error error =>
    refine ⟨.ofError error, [], rfl, iff_of_false ?_ ?_⟩
    · cases error <;> decide
    · rintro ⟨value, given⟩
      cases given
  | ok value =>
    obtain ⟨changed, updated⟩ := update_eq opened field value
    refine ⟨if changed then .updated else .unchanged, if changed then [field] else [], ?_,
      iff_of_true ?_ ⟨value, rfl⟩⟩
    · dsimp only
      rw [updated]
      rfl
    · cases changed <;> rfl

end Table

namespace Scope

def marking (scope : Scope schema) (values : Values schema) (fields : List schema.Field) :
    Scope schema :=
  scope.withTable (scope.manager.table.marking values fields)

variable {scope : Scope schema}

theorem marking_marking (scope : Scope schema) (values later : Values schema)
    (fields more : List schema.Field) :
    (scope.marking values fields).marking later more = scope.marking later (fields ++ more) := by
  simp only [marking, withTable, Table.marking, ChangeSet.insertAll_append]

theorem answer_eq (opened : scope.manager.table.updating = true) (request : Request schema) :
    ∃ reply, scope.answer request = (.ok reply,
      scope.marking (scope.manager.values.give request)
        (Exchange.changed? ⟨request, reply⟩).toList) := by
  cases request with
  | update field value =>
    obtain ⟨changed, updated⟩ := Table.update_eq opened field value
    refine ⟨changed, ?_⟩
    rw [answer, update, updated]
    cases changed <;> rfl
  | unbox name boxed =>
    cases named : schema.named? name with
    | none =>
      refine ⟨.keyUnknown, ?_⟩
      rw [answer, unbox, Values.give, named]
      rfl
    | some field =>
      obtain ⟨result, unboxed⟩ := Table.unbox_eq opened field boxed
      refine ⟨result, ?_⟩
      rw [answer, unbox, Values.give, Exchange.changed?, named]
      dsimp only
      rw [unboxed]
      cases result <;> rfl

theorem serve_eq (opened : scope.manager.table.updating = true) (requests : List (Request schema)) :
    ∃ exchanges : List (Exchange schema), exchanges.map Exchange.request = requests ∧
      scope.serve requests = (.ok exchanges,
        scope.marking (requests.foldl Values.give scope.manager.values)
          (exchanges.filterMap Exchange.changed?)) := by
  induction requests generalizing scope with
  | nil => exact ⟨[], rfl, rfl⟩
  | cons request rest ih =>
    obtain ⟨reply, answered⟩ := answer_eq opened request
    have still : (scope.marking (scope.manager.values.give request)
        (Exchange.changed? ⟨request, reply⟩).toList).manager.table.updating = true := opened
    obtain ⟨exchanges, asked, served⟩ := ih still
    refine ⟨⟨request, reply⟩ :: exchanges, congrArg (request :: ·) asked, ?_⟩
    -- The marks of this request come first, then those of the rest.
    rw [serve, answered, Exchange.filterMap_changed?_cons]
    dsimp only
    rw [served, marking_marking]
    rfl

end Scope

namespace Manager

variable {manager : Manager schema}

/-- The manager amid a transaction that gave it those values and marked those fields. -/
def amid (manager : Manager schema) (values : Values schema) (fields : List schema.Field) :
    Manager schema :=
  { manager with table := { manager.table.marking values fields with updating := true } }

theorem beginUpdate_eq (idle : manager.table.updating = false) (origin : Origin) :
    manager.beginUpdate origin = .ok ⟨manager.amid manager.values [], origin, false⟩ := by
  have begins : manager.table.beginUpdate = .ok { manager.table with updating := true } := by
    rw [Table.beginUpdate, idle, if_neg (by decide)]
  rw [beginUpdate, begins]
  rfl

theorem serve_eq (manager : Manager schema) (origin : Origin) (requests : List (Request schema)) :
    ∃ exchanges : List (Exchange schema), exchanges.map Exchange.request = requests ∧
      (Scope.mk (manager.amid manager.values []) origin false).serve requests = (.ok exchanges,
        ⟨manager.amid (requests.foldl Values.give manager.values)
          (exchanges.filterMap Exchange.changed?), origin, false⟩) :=
  Scope.serve_eq rfl requests

end Manager

end IniSettings
