import IniSettings.Manager.Basic
import IniSettings.Proofs.Schema

/-!
# What a manager stores

With keys of their own the fields stand in the file one by one, in the order of the table. What the
lines say depends on the texts of the fields: a text that spans lines ends the lines before it.
-/

namespace IniSettings
open Format

variable {schema : Schema}

namespace Values

def pair (values : Values schema) (field : schema.Field) : String × String :=
  (schema.key field, values.text field)

def sectionOf (values : Values schema) (fields : List schema.Field) : Section :=
  ⟨schema.title, fields.map values.pair⟩

variable (values : Values schema)

theorem keys_sectionOf (fields : List schema.Field) :
    (values.sectionOf fields).keys = fields.map schema.key := by
  simp [sectionOf, Section.keys, pair, Function.comp_def]

theorem keyed_sectionOf (wellFormed : schema.WellFormed) {fields : List schema.Field}
    (distinct : fields.Nodup) : (values.sectionOf fields).Keyed := by
  refine ⟨?_, ?_⟩ <;> rw [keys_sectionOf]
  · exact wellFormed.nodup_keys distinct
  · intro member
    obtain ⟨field, -, empty⟩ := List.mem_map.1 member
    exact Schema.key_ne field empty

theorem readable_sectionOf (wellFormed : schema.WellFormed) {fields : List schema.Field}
    (distinct : fields.Nodup) (oneLine : ∀ field ∈ fields, '\n' ∉ (values.text field).toList) :
    (values.sectionOf fields).Readable := by
  refine ⟨values.keyed_sectionOf wellFormed distinct, wellFormed.title, fun pair member => ?_⟩
  obtain ⟨field, there, rfl⟩ := List.mem_map.1 member
  exact ⟨wellFormed.keys field, oneLine field there⟩

theorem holdable_sectionOf (wellFormed : schema.WellFormed) {values : Values schema}
    (holdable : values.Holdable) (fields : List schema.Field) :
    (values.sectionOf fields).Holdable := by
  refine ⟨wellFormed.title, fun pair member => ?_⟩
  obtain ⟨field, -, rfl⟩ := List.mem_map.1 member
  exact ⟨wellFormed.keys field, FieldType.isValue_format_iff.2 (holdable field)⟩

end Values

theorem Manager.toSection_of_injective (distinct : Function.Injective schema.key)
    (manager : Manager schema) : manager.toSection = manager.values.sectionOf schema.fields := by
  have keys : (manager.values.sectionOf schema.fields).keys.Nodup := by
    rw [Values.keys_sectionOf]
    exact schema.nodup_fields.map distinct
  have added := Section.foldl_assign schema.title [] keys
  exact List.foldl_map.symm.trans added

theorem Manager.toSection_eq (wellFormed : schema.WellFormed) (manager : Manager schema) :
    manager.toSection = manager.values.sectionOf schema.fields :=
  toSection_of_injective wellFormed.distinct manager

end IniSettings
