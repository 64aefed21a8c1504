import IniSettings.Proofs.Manager.Frame
import IniSettings.Proofs.Settings.Members
import IniSettings.Settings.InPlace

/-!
# Operations on a table in place

To change a table in place comes to the same as to keep the old one when an operation is aborted, so
no operation assigns anything before it is aborted.
-/

namespace IniSettings

variable {schema : Schema}

namespace Table

namespace InPlace

variable {α β : Type} {table : Table schema}

theorem outcome_bind (program : Program schema α) (rest : α → Program schema β) :
    outcome (program >>= rest) table =
      match outcome program table with
      | (.ok reply, later) => outcome (rest reply) later
      | (.error abort, later) => (.error abort, later) := by
  simp only [outcome, EStateM.run, bind, EStateM.bind]
  cases program table <;> rfl

theorem outcome_get_bind (rest : Table schema → Program schema α) :
    outcome (get >>= rest) table = outcome (rest table) table := rfl

theorem outcome_demand_bind (holds : Bool) (abort : Abort)
    (rest : Unit → Program schema α) :
    outcome (demand holds abort >>= rest) table =
      if holds then outcome (rest ()) table else (.error abort, table) := by
  cases holds <;> rfl

end InPlace

open InPlace (outcome)

theorem update_of_closed {table : Table schema} (closed : table.updating = false)
    (field : schema.Field) (value : (schema.spec field).type.Value) :
    table.update field value = .error .updateOutsideTransaction := by
  rw [Table.update, if_pos (by simp [closed])]

theorem outcome_update (table : Table schema) (field : schema.Field)
    (value : (schema.spec field).type.Value) :
    outcome (InPlace.update field value) table = table.perform (.update field value) := by
  rw [InPlace.update, InPlace.outcome_get_bind, InPlace.outcome_demand_bind,
    InPlace.outcome_get_bind, perform, answer]
  cases opened : table.updating with
  | false =>
    rw [update_of_closed opened]
    rfl
  | true =>
    rw [if_pos rfl]
    by_cases same : table.values field = value
    · rw [update_of_same opened same, if_pos same]
      rfl
    · rw [update_of_different opened same, if_neg same]
      rfl

theorem outcome_unbox (table : Table schema) (field : schema.Field) (boxed : BoxedValue) :
    outcome (InPlace.unbox field boxed) table = table.perform (.unbox field boxed) := by
  rw [InPlace.unbox, perform, answer, Table.unbox]
  cases (schema.spec field).isReadOnly with
  | true => rfl
  | false =>
    cases (schema.spec field).type.unbox boxed with
    | error error => rfl
    | ok value =>
      simp only [Bool.false_eq_true, if_false, InPlace.outcome_bind, outcome_update, perform,
        answer]
      cases table.update field value with
      | error abort => rfl
      | ok answer => rfl

theorem outcome_inPlace (table : Table schema) (operation : Operation schema) :
    outcome (inPlace operation) table = table.perform operation := by
  cases operation with
  | put values => rfl
  | update field value => exact outcome_update table field value
  | unbox field boxed => exact outcome_unbox table field boxed
  | changesProcessed =>
    simp only [inPlace, InPlace.changesProcessed, perform, answer, Table.changesProcessed,
      InPlace.outcome_get_bind, InPlace.outcome_demand_bind]
    cases table.hasPending <;> rfl
  | beginUpdate =>
    simp only [inPlace, InPlace.beginUpdate, perform, answer, Table.beginUpdate,
      InPlace.outcome_get_bind, InPlace.outcome_demand_bind]
    cases table.updating <;> rfl
  | endUpdate =>
    simp only [inPlace, InPlace.endUpdate, perform, answer, Table.endUpdate,
      InPlace.outcome_get_bind, InPlace.outcome_demand_bind]
    cases table.updating <;> rfl

end Table

end IniSettings
