import IniSettings.Proofs.Document.EditHistory
import IniSettings.Proofs.Manager.Stored
import Mathlib.Order.Fin.Basic

/-!
# What a manager stores under shared keys

Several fields may share a key. The line of the key stands where the first of them is declared and
holds the text of the last. The texts go through one buffer, which is emptied before each field.
-/

namespace IniSettings

variable {schema : Schema}

/-- The field is the last of the table that is stored under the key. -/
def Schema.IsLast (schema : Schema) (key : String) (field : schema.Field) : Prop :=
  schema.key field = key ∧ ∀ later, field < later → schema.key later ≠ key

namespace Values

variable (values : Values schema)

def written (fields : List schema.Field) : Section :=
  fields.foldl (fun content field => content.assign (schema.key field) (values.text field))
    (Section.empty schema.title)

theorem written_concat (fields : List schema.Field) (last : schema.Field) :
    values.written (fields ++ [last]) =
      (values.written fields).assign (schema.key last) (values.text last) :=
  List.foldl_concat ..

theorem name_written (fields : List schema.Field) :
    (values.written fields).name = schema.title := by
  induction fields using List.reverseRecOn with
  | nil => rfl
  | append_singleton fields last ih =>
    rw [written_concat]
    exact ih

theorem keyed_written (fields : List schema.Field) : (values.written fields).Keyed := by
  induction fields using List.reverseRecOn with
  | nil => exact Section.keyed_empty schema.title
  | append_singleton fields last ih =>
    rw [written_concat]
    exact ih.assign (Schema.key_ne last) _

theorem keys_written (fields : List schema.Field) :
    (values.written fields).keys = (fields.map schema.key).eraseDups := by
  induction fields using List.reverseRecOn with
  | nil => rfl
  | append_singleton fields last ih =>
    rw [written_concat, Section.keys_assign, ih, List.map_append, List.map_singleton,
      eraseDups_concat]
    simp only [List.mem_eraseDups]

theorem get?_written (fields : List schema.Field) (key : String) :
    (values.written fields).get? key =
      (fields.reverse.find? fun field => schema.key field == key).map values.text := by
  induction fields using List.reverseRecOn with
  | nil => rfl
  | append_singleton fields last ih =>
    rw [written_concat, Section.get?_assign, List.reverse_concat, List.find?_cons]
    by_cases same : key = schema.key last
    · rw [if_pos same, beq_iff_eq.2 same.symm]
      rfl
    · rw [if_neg same, beq_false_of_ne (Ne.symm same), ih]

end Values

namespace Schema

variable {key : String} {field other : schema.Field}

theorem IsLast.unique (last : schema.IsLast key field) (also : schema.IsLast key other) :
    field = other := by
  rcases lt_trichotomy field other with before | same | after
  · exact absurd also.1 (last.2 other before)
  · exact same
  · exact absurd last.1 (also.2 field after)

theorem mem_reverse_fields (field : schema.Field) : field ∈ schema.fields.reverse :=
  List.mem_reverse.2 (mem_fields field)

theorem isLast_of_find?_reverse
    (found : (schema.fields.reverse.find? fun field => schema.key field == key) = some field) :
    schema.IsLast key field := by
  have ordered : schema.fields.reverse.Pairwise fun field other => other < field :=
    List.pairwise_reverse.2 (List.pairwise_lt_finRange _)
  obtain ⟨same, before, after, split, others⟩ := List.find?_eq_some_iff_append.1 found
  refine ⟨beq_iff_eq.1 same, fun later behind => ?_⟩
  have place := mem_reverse_fields later
  rw [split, List.mem_append, List.mem_cons] at place
  rcases place with passed | rfl | rest
  · simpa using others later passed
  · exact absurd behind (lt_irrefl later)
  · rw [split, List.pairwise_append, List.pairwise_cons] at ordered
    exact absurd behind (lt_asymm (ordered.2.1.1 later rest))

theorem find?_reverse_fields_iff :
    (schema.fields.reverse.find? fun field => schema.key field == key) = some field ↔
      schema.IsLast key field := by
  constructor
  · exact isLast_of_find?_reverse
  · intro last
    have present : (schema.fields.reverse.find? fun field => schema.key field == key).isSome :=
      List.find?_isSome.2 ⟨field, mem_reverse_fields field, beq_iff_eq.2 last.1⟩
    obtain ⟨found, first⟩ := Option.isSome_iff_exists.1 present
    rw [last.unique (isLast_of_find?_reverse first)]
    exact first

end Schema

namespace Draft

theorem write_eq (values : Values schema) (content : Section) (buffer : String)
    (field : schema.Field) :
    Draft.write values 0 ⟨⟨[content]⟩, buffer⟩ field =
      .ok ⟨⟨[content.assign (schema.key field) (values.text field)]⟩, values.text field⟩ := by
  have whole : "" ++ values.text field = values.text field := String.empty_append
  rw [write, store, clear, read, whole, Document.setAt_eq _ _ (Schema.key_ne field)]
  rfl

end Draft

namespace Manager

variable (manager : Manager schema)

theorem foldlM_write (fields : List schema.Field) (buffer : String) :
    ∃ left, fields.foldlM (Draft.write manager.values 0)
      ⟨⟨[Section.empty schema.title]⟩, buffer⟩ = .ok ⟨⟨[manager.values.written fields]⟩, left⟩ := by
  induction fields using List.reverseRecOn with
  | nil => exact ⟨buffer, rfl⟩
  | append_singleton fields last ih =>
    obtain ⟨left, before⟩ := ih
    refine ⟨manager.values.text last, ?_⟩
    rw [List.foldlM_append, before, Values.written_concat]
    show (Draft.write manager.values 0 _ last >>= pure) = _
    rw [Draft.write_eq]
    rfl

theorem draft_eq (buffer : String) :
    (manager.draft buffer).map Draft.document = .ok manager.toDocument := by
  have opened : (⟨[]⟩ : Document).openSection schema.title =
      (⟨[Section.empty schema.title]⟩, 0) :=
    Document.openSection_of_not_mem List.not_mem_nil
  obtain ⟨left, done⟩ := manager.foldlM_write schema.fields buffer
  rw [draft, opened]
  exact congrArg (Except.map Draft.document) done

theorem toDocument_exact :
    (∃ content, manager.toDocument = ⟨[content]⟩ ∧ content.name = schema.title ∧
      content.keys = (schema.fields.map schema.key).eraseDups ∧
      (∀ key value, (key, value) ∈ content.pairs ↔
        ∃ field, schema.IsLast key field ∧ value = manager.values.text field) ∧
      (Function.Injective schema.key →
        content.pairs = schema.fields.map fun field =>
          (schema.key field, manager.values.text field))) ∧
    ∀ buffer, (manager.draft buffer).map Draft.document = .ok manager.toDocument := by
  have keyed := manager.values.keyed_written schema.fields
  have found (key value : String) : (key, value) ∈ (manager.values.written schema.fields).pairs ↔
      (manager.values.written schema.fields).get? key = some value :=
    ⟨keyed.get?_of_mem, mem_of_lookup⟩
  refine ⟨⟨manager.toSection, rfl, manager.values.name_written schema.fields,
    manager.values.keys_written schema.fields, fun key value => ?_, fun distinct => ?_⟩,
    manager.draft_eq⟩
  · refine (found key value).trans ?_
    rw [Values.get?_written, Option.map_eq_some_iff]
    constructor
    · rintro ⟨field, last, rfl⟩
      exact ⟨field, Schema.find?_reverse_fields_iff.1 last, rfl⟩
    · rintro ⟨field, last, rfl⟩
      exact ⟨field, Schema.find?_reverse_fields_iff.2 last, rfl⟩
  · rw [toSection_of_injective distinct]
    rfl

end Manager

end IniSettings
