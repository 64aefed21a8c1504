import IniSettings.Proofs.Field.Boxing
import IniSettings.Proofs.Manager.Requests

/-!
# Boxed writes by name

What a boxed write comes to is told by the fields of the schema and the values in the scope alone.
It changes something only if it is answered to have updated its field, and then that field and its
mark; after a write that was accepted the field gives the box back.
-/

namespace IniSettings

variable {schema : Schema}

namespace Schema

structure Finds (schema : Schema) (name : String) (field : schema.Field) : Prop where
  named : schema.nameText field = name
  first : ∀ earlier < field, schema.nameText earlier ≠ name

variable {name : String} {field other : schema.Field}

theorem named?_eq_none_iff :
    schema.named? name = none ↔ ∀ field, schema.nameText field ≠ name :=
  find?_fields_eq_none_iff

theorem named?_eq_some_iff : schema.named? name = some field ↔ schema.Finds name field := by
  rw [named?, fields, List.find?_eq_some_iff_getElem]
  simp only [beq_iff_eq, List.getElem_finRange, Bool.not_eq_true', beq_eq_false_iff_ne]
  constructor
  · rintro ⟨named, place, within, rfl, first⟩
    refine ⟨named, fun earlier before => ?_⟩
    exact first earlier.val before
  · rintro ⟨named, first⟩
    refine ⟨named, field.val, by simp, rfl, fun place before => ?_⟩
    exact first _ before

theorem Finds.unique (finds : schema.Finds name field) (also : schema.Finds name other) :
    field = other :=
  Option.some.inj ((named?_eq_some_iff.2 finds).symm.trans (named?_eq_some_iff.2 also))

end Schema

namespace Values

/-- How a boxed write to the field is answered, going by the values that it finds. -/
inductive Answer (values : Values schema) (field : schema.Field) (boxed : BoxedValue) :
    UnboxResult → Prop where
  | permissionDenied (readOnly : (schema.spec field).access = .readOnly) :
      Answer values field boxed .permissionDenied
  | valueTypeInvalid (writable : (schema.spec field).access = .readWrite)
      (other : boxed.kind ≠ (schema.spec field).type.kind) :
      Answer values field boxed .valueTypeInvalid
  | valueInvalid (writable : (schema.spec field).access = .readWrite)
      (kind : boxed.kind = (schema.spec field).type.kind)
      (exceeded : (schema.spec field).type.Exceeded boxed) :
      Answer values field boxed .valueInvalid
  | unchanged (writable : (schema.spec field).access = .readWrite)
      (kind : boxed.kind = (schema.spec field).type.kind)
      (fits : ¬ (schema.spec field).type.Exceeded boxed) (same : values.box field = boxed) :
      Answer values field boxed .unchanged
  | updated (writable : (schema.spec field).access = .readWrite)
      (kind : boxed.kind = (schema.spec field).type.kind)
      (fits : ¬ (schema.spec field).type.Exceeded boxed) (differs : values.box field ≠ boxed) :
      Answer values field boxed .updated

inductive AnswerByName (values : Values schema) (name : String) (boxed : BoxedValue) :
    UnboxResult → Prop where
  | keyUnknown (missing : ∀ field, schema.nameText field ≠ name) :
      AnswerByName values name boxed .keyUnknown
  | found {field : schema.Field} {result : UnboxResult} (finds : schema.Finds name field)
      (answer : values.Answer field boxed result) : AnswerByName values name boxed result

variable {values : Values schema} {field : schema.Field} {name : String} {boxed : BoxedValue}
  {result other : UnboxResult}

theorem Answer.unique (answer : values.Answer field boxed result)
    (also : values.Answer field boxed other) : other = result := by
  cases answer <;> cases also <;> grind

theorem AnswerByName.unique (answer : values.AnswerByName name boxed result)
    (also : values.AnswerByName name boxed other) : other = result := by
  cases answer with
  | keyUnknown missing =>
    cases also with
    | keyUnknown _ => rfl
    | found finds _ => exact absurd finds.named (missing _)
  | found finds answer =>
    cases also with
    | keyUnknown missing => exact absurd finds.named (missing _)
    | found alsoFinds also =>
      obtain rfl := finds.unique alsoFinds
      exact answer.unique also

end Values

namespace Table

variable {table : Table schema} {field : schema.Field} {boxed : BoxedValue}

inductive Unboxed (table : Table schema) (field : schema.Field) (boxed : BoxedValue) :
    UnboxResult → Table schema → Prop where
  | refused {result : UnboxResult} (refused : result.isAccepted = false) :
      Unboxed table field boxed result table
  | unchanged (same : table.values.box field = boxed) :
      Unboxed table field boxed .unchanged table
  | updated {value : (schema.spec field).type.Value}
      (same : (schema.spec field).type.box value = boxed) :
      Unboxed table field boxed .updated
        (table.marking (table.values.set field value) [field])

theorem unbox_answer (opened : table.updating = true) (field : schema.Field)
    (boxed : BoxedValue) :
    ∃ result later, table.unbox field boxed = .ok (result, later) ∧
      table.values.Answer field boxed result ∧ table.Unboxed field boxed result later := by
  rw [unbox, FieldSpec.isReadOnly]
  cases access : (schema.spec field).access with
  | readOnly =>
    rw [if_pos (by decide)]
    exact ⟨_, _, rfl, .permissionDenied access, .refused rfl⟩
  | readWrite =>
    rw [if_neg (by decide)]
    have opening := (schema.spec field).type.opening boxed
    cases answer : (schema.spec field).type.unbox boxed with
    | error error =>
      rw [answer] at opening
      cases opening with
      | mismatch other => exact ⟨_, _, rfl, .valueTypeInvalid access other, .refused rfl⟩
      | exceeded kind exceeded =>
        exact ⟨_, _, rfl, .valueInvalid access kind exceeded, .refused rfl⟩
    | ok value =>
      rw [answer] at opening
      cases opening with
      | opened kind fits same =>
        dsimp only
        by_cases holds : table.values field = value
        · rw [update_of_same opened holds]
          have box : table.values.box field = boxed := by rw [Values.box, holds, same]
          exact ⟨_, _, rfl, .unchanged access kind fits box, .unchanged box⟩
        · rw [update_of_different opened holds]
          have differs : table.values.box field ≠ boxed := fun box =>
            holds (FieldType.box_injective (box.trans same.symm))
          exact ⟨_, _, rfl, .updated access kind fits differs, .updated same⟩

end Table

namespace Scope

/-- A boxed write by name is answered as the fields and the values say. It is made in full or not
at all: but for one that is answered to have updated its field, the scope is left as it was, and
that one changes the value of its field's member and the mark of its field only. The field of a
write that was accepted gives the box back by the same name. -/
theorem unbox_exact {scope : Scope schema} (opened : scope.manager.table.updating = true)
    (name : String) (boxed : BoxedValue) :
    ∃ result next, scope.unbox name boxed = (.ok result, next) ∧
      (∀ other, scope.manager.values.AnswerByName name boxed other ↔ other = result) ∧
      (result ≠ .updated → next = scope) ∧
      (result = .updated → ∃ field, schema.Finds name field ∧
        next = scope.withTable { scope.manager.table with
          values := next.manager.values
          changes := next.manager.table.changes } ∧
        ∀ other,
          (¬ schema.Shares field other →
            next.manager.values other = scope.manager.values other) ∧
          (next.manager.table.changes.contains other = true ↔
            other = field ∨ scope.manager.table.changes.contains other = true)) ∧
      (result.isAccepted = true → next.manager.boxed name = .ok boxed) := by
  rw [unbox]
  cases named : schema.named? name with
  | none =>
    have answer : scope.manager.values.AnswerByName name boxed .keyUnknown :=
      .keyUnknown (Schema.named?_eq_none_iff.1 named)
    refine ⟨.keyUnknown, scope, rfl, fun other => ⟨answer.unique, ?_⟩, fun _ => rfl, ?_, ?_⟩
    · rintro rfl
      exact answer
    · rintro ⟨⟩
    · rintro ⟨⟩
  | some field =>
    have finds := Schema.named?_eq_some_iff.1 named
    obtain ⟨result, later, unboxed, answered, left⟩ := Table.unbox_answer opened field boxed
    have answer : scope.manager.values.AnswerByName name boxed result := .found finds answered
    dsimp only
    rw [unboxed]
    refine ⟨result, scope.withTable later, rfl, fun other => ⟨answer.unique, ?_⟩, ?_⟩
    · rintro rfl
      exact answer
    · have read : (scope.withTable later).manager.boxed name = .ok (later.values.box field) := by
        rw [Manager.boxed, Manager.field, named]
        rfl
      rw [read]
      cases left with
      | refused refused =>
        refine ⟨fun _ => rfl, ?_, fun accepted => ?_⟩
        · rintro rfl
          cases refused
        · exact absurd accepted (by simp [refused])
      | unchanged same =>
        refine ⟨fun _ => rfl, ?_, fun _ => congrArg _ same⟩
        rintro ⟨⟩
      | @updated value same =>
        refine ⟨fun still => absurd rfl still, fun _ => ⟨field, finds, rfl, fun other => ⟨?_, ?_⟩⟩,
          fun _ => ?_⟩
        · intro apart
          exact Values.set_other _ _ _ apart
        · show (scope.manager.table.changes.insertAll [field]).contains other = true ↔ _
          rw [ChangeSet.contains_insertAll, Bool.or_eq_true, List.contains_iff_mem,
            List.mem_singleton]
        · show Except.ok ((schema.spec field).type.box (scope.manager.values.set field value field))
            = _
          rw [Values.set_same, same]

end Scope

def Device.renumbering : Scope Device.schema where
  manager :=
    { Manager.new ⟨"device.ini"⟩ (Values.initial Device.schema) with
      table := { Table.new (Values.initial Device.schema) with updating := true } }
  origin := .here
  closed := false

theorem Scope.unbox_exact_renumbering :
    Device.renumbering.manager.table.updating = true ∧
      ∃ next, Device.renumbering.unbox "@net:device:port" (.unsigned 81) = (.ok .updated, next) ∧
        next.manager.boxed "@net:device:port" = .ok (.unsigned 81) ∧
        next.manager.table.changes.contains (1 : Fin 5) = true := by
  have opened : Device.renumbering.manager.table.updating = true := rfl
  have port : Device.schema.Finds "@net:device:port" (1 : Fin 5) := ⟨rfl, by decide⟩
  obtain ⟨result, next, answered, told, -, changed, reads⟩ :=
    unbox_exact opened "@net:device:port" (.unsigned 81)
  have fits : ¬ Device.port.type.Exceeded (.unsigned 81) := by
    show ¬ 2 ^ 16 ≤ 81
    decide
  have updated : Device.renumbering.manager.values.AnswerByName "@net:device:port"
      (.unsigned 81) .updated := .found port (.updated rfl rfl fits (by decide))
  obtain rfl := (told .updated).1 updated
  obtain ⟨field, finds, -, kept⟩ := changed rfl
  obtain rfl := port.unique finds
  exact ⟨opened, next, answered, reads rfl, (kept (1 : Fin 5)).2.2 (.inl rfl)⟩

end IniSettings
