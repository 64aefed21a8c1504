import IniSettings.Field.Name
import IniSettings.Field.Type

/-!
# Schemas

A schema is the table of a program's settings: the section of the file that holds them, and for
each field its name, type, default, and whether it can be changed from outside. All else in this
library works for every schema. Two fields may share a key, or even a name; the first of them is
the one that is found. They may also share a member of the record that holds the values, and then
they have one value.
-/

namespace IniSettings

inductive Access where
  | readWrite
  | readOnly
deriving DecidableEq, Repr

structure FieldSpec where
  /-- What the field is called among the fields of its schema. -/
  id : String
  /-- The member of the record of values that the field is kept in. -/
  member : String
  name : FieldName
  access : Access
  type : FieldType
  /-- What the member holds to begin with. Of the fields of one member the first says it. -/
  initial : type.Value

structure Schema where
  record : String
  title : String
  specs : List FieldSpec

def FieldSpec.key (spec : FieldSpec) : String :=
  spec.name.key

def FieldSpec.isReadOnly (spec : FieldSpec) : Bool :=
  spec.access == .readOnly

def FieldSpec.describe (spec : FieldSpec) : String :=
  let access := if spec.isReadOnly then "ReadOnly" else "ReadWrite"
  "FieldDescriptor \x7b id: " ++ spec.id ++ ", name: " ++ Text.quoted spec.name.text ++
    ", access: " ++ access ++ ", .. \x7d"

namespace Schema

def size (schema : Schema) : Nat :=
  schema.specs.length

/-- A field, by its place in the table. -/
abbrev Field (schema : Schema) : Type :=
  Fin schema.size

def spec (schema : Schema) (field : schema.Field) : FieldSpec :=
  schema.specs.get field

def fields (schema : Schema) : List schema.Field :=
  List.finRange schema.size

def key (schema : Schema) (field : schema.Field) : String :=
  (schema.spec field).key

def nameText (schema : Schema) (field : schema.Field) : String :=
  (schema.spec field).name.text

def named? (schema : Schema) (name : String) : Option schema.Field :=
  schema.fields.find? fun field => schema.nameText field == name

def keyed? (schema : Schema) (key : String) : Option schema.Field :=
  schema.fields.find? fun field => schema.key field == key

/-- Both fields are kept in the same member. A member has one type, so fields that give it two are
those of no program, and they are kept apart. -/
structure Shares (schema : Schema) (field other : schema.Field) : Prop where
  member : (schema.spec field).member = (schema.spec other).member
  type : (schema.spec field).type = (schema.spec other).type

instance (schema : Schema) (field other : schema.Field) : Decidable (schema.Shares field other) :=
  decidable_of_iff
    ((schema.spec field).member = (schema.spec other).member ∧
      (schema.spec field).type = (schema.spec other).type)
    ⟨fun same => ⟨same.1, same.2⟩, fun shares => ⟨shares.member, shares.type⟩⟩

/-- The first field that is kept in the same member. -/
def home (schema : Schema) (field : schema.Field) : schema.Field :=
  (schema.fields.find? fun other => schema.Shares other field).getD field

namespace Shares

variable {schema : Schema} {field other third : schema.Field}

theorem refl (field : schema.Field) : schema.Shares field field :=
  ⟨rfl, rfl⟩

theorem symm (shares : schema.Shares field other) : schema.Shares other field :=
  ⟨shares.member.symm, shares.type.symm⟩

theorem trans (shares : schema.Shares field other) (also : schema.Shares other third) :
    schema.Shares field third :=
  ⟨shares.member.trans also.member, shares.type.trans also.type⟩

theorem home (field : schema.Field) : schema.Shares (schema.home field) field := by
  rw [Schema.home]
  cases found : schema.fields.find? fun other => schema.Shares other field with
  | none => exact refl field
  | some first => simpa using List.find?_some found

theorem home_eq (shares : schema.Shares field other) : schema.home field = schema.home other := by
  have same : (fun first => decide (schema.Shares first field)) =
      fun first => decide (schema.Shares first other) :=
    funext fun first => decide_eq_decide.2
      ⟨fun early => early.trans shares, fun early => early.trans shares.symm⟩
  have first : (schema.fields.find? fun first => schema.Shares first other).isSome :=
    List.find?_isSome.2 ⟨other, List.mem_finRange other, decide_eq_true (refl other)⟩
  obtain ⟨place, found⟩ := Option.isSome_iff_exists.1 first
  rw [Schema.home, Schema.home, same, found, Option.getD_some, Option.getD_some]

end Shares

end Schema

/-- A value for each field, and one value for those that share a member. -/
structure Values (schema : Schema) where
  get (field : schema.Field) : (schema.spec field).type.Value
  shared {field other : schema.Field} (shares : schema.Shares field other) :
    HEq (get field) (get other)

namespace Values

variable {schema : Schema}

instance : CoeFun (Values schema) fun _ =>
    (field : schema.Field) → (schema.spec field).type.Value where
  coe := get

@[ext] theorem ext {left right : Values schema} (same : ∀ field, left field = right field) :
    left = right := by
  obtain ⟨get, shared⟩ := left
  obtain rfl : get = right.get := funext same
  rfl

def initial (schema : Schema) : Values schema where
  get field :=
    cast (congrArg FieldType.Value (Schema.Shares.home field).type)
      (schema.spec (schema.home field)).initial
  shared shares := by
    refine (cast_heq _ _).trans (HEq.trans ?_ (cast_heq _ _).symm)
    rw [shares.home_eq]

/-- Gives the field a value, and with it the fields that share its member. -/
def set (values : Values schema) (field : schema.Field) (value : (schema.spec field).type.Value) :
    Values schema where
  get other :=
    if shares : schema.Shares field other then cast (congrArg FieldType.Value shares.type) value
    else values other
  shared {first second} shares := by
    by_cases here : schema.Shares field first
    · rw [dif_pos here, dif_pos (here.trans shares)]
      exact (cast_heq _ _).trans (cast_heq _ _).symm
    · rw [dif_neg here, dif_neg fun there => here (there.trans shares.symm)]
      exact values.shared shares

instance : DecidableEq (Values schema) := fun left right =>
  have (field : schema.Field) : Decidable (left field = right field) :=
    FieldType.decidableEqValue _ _ _
  decidable_of_iff (∀ field, left field = right field)
    ⟨ext, fun same field => congrArg (fun values => get values field) same⟩

def text (values : Values schema) (field : schema.Field) : String :=
  (schema.spec field).type.format (values field)

def box (values : Values schema) (field : schema.Field) : BoxedValue :=
  (schema.spec field).type.box (values field)

/-- Reads the field from the text of the file, unless its type refuses that text. -/
def read? (values : Values schema) (field : schema.Field) (written : String) :
    Option (Values schema) :=
  ((schema.spec field).type.parse? written).map (values.set field)

def describe (values : Values schema) : String :=
  let member (field : schema.Field) :=
    (schema.spec field).member ++ ": " ++ (schema.spec field).type.describe (values field)
  let homes := schema.fields.filter fun field => schema.home field = field
  schema.record ++ " \x7b " ++ ", ".intercalate (homes.map member) ++ " \x7d"

end Values

end IniSettings
