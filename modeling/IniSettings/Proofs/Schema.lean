import IniSettings.Device
import IniSettings.Proofs.Field.Type

/-!
# Schemas and their values

The fields of a schema are its places, each of them once. A schema is well formed if the file can
hold its title and its keys and each field has its own key.
-/

namespace IniSettings
open Format

namespace Schema

theorem mem_fields {schema : Schema} (field : schema.Field) : field ∈ schema.fields :=
  List.mem_finRange field

theorem nodup_fields (schema : Schema) : schema.fields.Nodup :=
  List.nodup_finRange schema.size

structure WellFormed (schema : Schema) : Prop where
  title : IsName schema.title
  keys : ∀ field, IsKey (schema.key field)
  distinct : Function.Injective schema.key

theorem key_ne {schema : Schema} (field : schema.Field) : schema.key field ≠ "" :=
  (schema.spec field).name.key_ne

theorem WellFormed.nodup_keys {schema : Schema} (wellFormed : schema.WellFormed)
    {fields : List schema.Field} (distinct : fields.Nodup) : (fields.map schema.key).Nodup :=
  distinct.map wellFormed.distinct

theorem find?_fields_eq_none_iff {schema : Schema} {text : schema.Field → String}
    {sought : String} :
    (schema.fields.find? fun field => text field == sought) = none ↔
      ∀ field, text field ≠ sought := by
  rw [List.find?_eq_none]
  constructor
  · intro missing field
    simpa using missing field (mem_fields field)
  · intro missing field _
    simpa using missing field

theorem keyed?_eq_none_iff {schema : Schema} {key : String} :
    schema.keyed? key = none ↔ ∀ field, schema.key field ≠ key :=
  find?_fields_eq_none_iff

theorem keyed?_eq_some_iff {schema : Schema} (distinct : Function.Injective schema.key)
    {key : String} {field : schema.Field} :
    schema.keyed? key = some field ↔ schema.key field = key := by
  constructor
  · intro found
    simpa using List.find?_some found
  · intro same
    cases found : schema.keyed? key with
    | none => exact absurd same (keyed?_eq_none_iff.1 found field)
    | some other =>
      have also : schema.key other = key := by simpa using List.find?_some found
      rw [distinct (also.trans same.symm)]

theorem WellFormed.keyed?_key {schema : Schema} (wellFormed : schema.WellFormed)
    (field : schema.Field) : schema.keyed? (schema.key field) = some field :=
  (keyed?_eq_some_iff wellFormed.distinct).2 rfl

/-- No other field is kept in the member of this one. -/
def Alone (schema : Schema) (field : schema.Field) : Prop :=
  ∀ other, schema.Shares other field → other = field

instance (schema : Schema) (field : schema.Field) : Decidable (schema.Alone field) :=
  Nat.decidableForallFin _

end Schema

theorem Device.wellFormed : Device.schema.WellFormed :=
  ⟨by decide, by decide, by unfold Function.Injective; decide⟩

theorem Device.alone : ∀ field, Device.schema.Alone field := by
  decide

def Device.portPlace : Device.schema.Field :=
  (1 : Fin 5)

def Device.otherPort : (Device.schema.spec Device.portPlace).type.Value :=
  Fin.mk 81 (by decide)

/-- A device whose port goes by a second name as well, for reading only. -/
def Device.aliased : Schema where
  record := Device.schema.record
  title := Device.schema.title
  specs :=
    [Device.port,
      { Device.port with
        id := "Listening", name := ⟨some "@sys:device", "listening", by decide⟩,
        access := .readOnly }]

theorem Device.wellFormed_aliased : Device.aliased.WellFormed :=
  ⟨by decide, by decide, by unfold Function.Injective; decide⟩

theorem Schema.Shares.transport {schema : Schema} {field other : schema.Field}
    (shares : schema.Shares field other) {P : (type : FieldType) → type.Value → Prop}
    {value : (schema.spec field).type.Value} {same : (schema.spec other).type.Value}
    (equal : HEq value same) (holds : P (schema.spec field).type value) :
    P (schema.spec other).type same := by
  have (type : FieldType) (types : (schema.spec field).type = type) (also : type.Value)
      (equal : HEq value also) : P type also := by
    subst types
    cases equal
    exact holds
  exact this _ shares.type same equal

namespace Values

variable {schema : Schema} (values : Values schema) (field : schema.Field)
  (value : (schema.spec field).type.Value)

theorem set_apply (other : schema.Field) :
    values.set field value other =
      if shares : schema.Shares field other then cast (congrArg FieldType.Value shares.type) value
      else values other := rfl

theorem set_shares {other : schema.Field} (shares : schema.Shares field other) :
    HEq (values.set field value other) value := by
  rw [set_apply, dif_pos shares]
  exact cast_heq _ _

@[simp] theorem set_same : values.set field value field = value :=
  eq_of_heq (values.set_shares field value (.refl field))

theorem set_other {other : schema.Field} (apart : ¬ schema.Shares field other) :
    values.set field value other = values other := by
  rw [set_apply, dif_neg apart]

variable {values : Values schema} {field other : schema.Field}
  {value : (schema.spec field).type.Value}

theorem eq_of_shares {left right : Values schema} (shares : schema.Shares field other)
    (same : left field = right field) : left other = right other :=
  eq_of_heq ((left.shared shares).symm.trans ((heq_of_eq same).trans (right.shared shares)))

theorem set_eq_self (same : values field = value) : values.set field value = values := by
  ext other
  by_cases shares : schema.Shares field other
  · exact eq_of_shares shares ((values.set_same field value).trans same.symm)
  · exact set_other _ _ _ shares

theorem text_eq_of_shares (values : Values schema) (shares : schema.Shares field other) :
    values.text field = values.text other :=
  shares.transport (P := fun type value => values.text field = type.format value)
    (values.shared shares) rfl

theorem forall_set {P : (type : FieldType) → type.Value → Prop}
    (kept : ∀ field, P (schema.spec field).type (values field))
    (given : P (schema.spec field).type value) (other : schema.Field) :
    P (schema.spec other).type (values.set field value other) := by
  by_cases shares : schema.Shares field other
  · exact shares.transport (values.set_shares field value shares).symm given
  · rw [set_other _ _ _ shares]
    exact kept other

variable (values)

def Holdable : Prop :=
  ∀ field, (schema.spec field).type.Holdable (values field)

instance : Decidable values.Holdable :=
  have : DecidablePred fun field => (schema.spec field).type.Holdable (values field) := fun _ =>
    FieldType.decidableHoldable _ _
  Nat.decidableForallFin _

end Values

end IniSettings
