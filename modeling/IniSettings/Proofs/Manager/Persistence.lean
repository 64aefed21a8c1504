import IniSettings.Proofs.Document.Presence
import IniSettings.Proofs.Manager.Loading
import IniSettings.Proofs.Manager.Stored
import IniSettings.Proofs.Saving.Faultless
import IniSettings.Proofs.Text.Utf8

/-!
# Storing and loading again

A fresh manager that loads what another one stored holds the same values exactly if the file can
hold them. Lines that a text brings into the file never make up for the loss: the field of the first
such text is read from the one line that was left of it.
-/

namespace IniSettings
open Format Text

variable {schema : Schema}

def Values.reread (values : Values schema) : Reading :=
  Document.scan (Document.mk [values.sectionOf schema.fields]).render

namespace Values

variable {values fallback : Values schema}

theorem keyed_fields (wellFormed : schema.WellFormed) :
    (values.sectionOf schema.fields).Keyed :=
  values.keyed_sectionOf wellFormed (schema.nodup_fields)

theorem reread_of_one_line (wellFormed : schema.WellFormed)
    (oneLine : ∀ field, '\n' ∉ (values.text field).toList) :
    values.reread = ⟨⟨[(values.sectionOf schema.fields).trimmed]⟩, []⟩ := by
  have readable := values.readable_sectionOf wellFormed (schema.nodup_fields)
    fun field _ => oneLine field
  refine Document.scan_render (List.nodup_singleton _) fun content member => ?_
  exact List.mem_singleton.1 member ▸ readable

theorem reread_of_holdable (wellFormed : schema.WellFormed) (holdable : values.Holdable) :
    values.reread = ⟨⟨[values.sectionOf schema.fields]⟩, []⟩ := by
  refine Document.scan_render_of_canonical ⟨⟨List.nodup_singleton _, ?_⟩, ?_⟩
  · exact fun content member => List.mem_singleton.1 member ▸ keyed_fields wellFormed
  · exact fun content member =>
      List.mem_singleton.1 member ▸ holdable_sectionOf wellFormed holdable schema.fields

theorem get?_sectionOf (wellFormed : schema.WellFormed) (field : schema.Field) :
    (values.sectionOf schema.fields).get? (schema.key field) = some (values.text field) :=
  (keyed_fields wellFormed).get?_of_mem (List.mem_map_of_mem (Schema.mem_fields field))

theorem get?_trimmed_sectionOf (wellFormed : schema.WellFormed) (field : schema.Field) :
    (values.sectionOf schema.fields).trimmed.get? (schema.key field) =
      some (trimmed (values.text field)) :=
  (keyed_fields wellFormed).trimmed.get?_of_mem
    (List.mem_map_of_mem (List.mem_map_of_mem (Schema.mem_fields field)))

/-- Of the first text that spans lines one line is read under its key. -/
theorem reread_of_not_one_line (wellFormed : schema.WellFormed)
    (spans : ∃ field, '\n' ∈ (values.text field).toList) :
    ∃ field content written, '\n' ∈ (values.text field).toList ∧
      values.reread.document.section? schema.title = some content ∧
      content.get? (schema.key field) = some written := by
  obtain ⟨spanning, there⟩ := spans
  have found : (schema.fields.find? fun field => '\n' ∈ (values.text field).toList).isSome :=
    List.find?_isSome.2 ⟨spanning, Schema.mem_fields spanning, by simpa using there⟩
  obtain ⟨field, first⟩ := Option.isSome_iff_exists.1 found
  obtain ⟨feed, before, after, fields, oneLine⟩ := List.find?_eq_some_iff_append.1 first
  have feed : '\n' ∈ (values.text field).toList := by simpa using feed
  have distinct : (before ++ field :: after).Nodup := fields ▸ schema.nodup_fields
  have fresh : schema.key field ∉ (before.map values.pair).map Prod.fst := by
    rw [List.map_map]
    intro member
    obtain ⟨other, early, same⟩ := List.mem_map.1 member
    have twice := wellFormed.distinct same
    exact (List.nodup_append.1 distinct).2.2 other early field List.mem_cons_self twice
  have readable := values.readable_sectionOf wellFormed (List.nodup_append.1 distinct).1
    fun other member => by simpa using oneLine other member
  obtain ⟨content, written, read⟩ := Document.scan_render_span readable (wellFormed.keys field)
    (Schema.key_ne field) fresh feed (after.map values.pair)
  refine ⟨field, content, written, feed, ?_⟩
  rw [reread, sectionOf, fields, List.map_append]
  exact read

theorem valuesFrom_of_section? {manager : Manager schema} {document : Document}
    {content : Section} (found : document.section? schema.title = some content) :
    manager.valuesFrom document = manager.values.taking content := by
  rw [Manager.valuesFrom, found]

theorem text_valuesFrom_reread (wellFormed : schema.WellFormed)
    (oneLine : ∀ field, '\n' ∉ (values.text field).toList) (manager : Manager schema)
    (field : schema.Field) :
    (manager.valuesFrom values.reread.document).text field = trimmed (values.text field) := by
  have read (other : schema.Field) :
      ∃ kept, (values.sectionOf schema.fields).trimmed.given? other = some kept ∧
        (schema.spec other).type.format kept = trimmed (values.text other) := by
    rw [Section.given?, get?_trimmed_sectionOf wellFormed other, Option.bind_some]
    exact FieldType.parse?_trimmed_format (values other)
  rw [reread_of_one_line wellFormed oneLine,
    valuesFrom_of_section? (Document.section?_singleton _)]
  rcases taking_cases (values.sectionOf schema.fields).trimmed field with
    ⟨nothing, -⟩ | ⟨other, shares, taken⟩
  · obtain ⟨kept, given, -⟩ := read field
    rw [nothing field (.refl field)] at given
    cases given
  · -- The fields of one member are written as one text, so it does not matter which is read last.
    obtain ⟨kept, given, same⟩ := read other
    rw [taken manager.values] at given
    obtain rfl := Option.some.inj given
    rw [← text_eq_of_shares _ shares, ← values.text_eq_of_shares shares]
    exact same

theorem valuesFrom_reread_field_iff (wellFormed : schema.WellFormed)
    (oneLine : ∀ field, '\n' ∉ (values.text field).toList) (manager : Manager schema)
    (field : schema.Field) :
    manager.valuesFrom values.reread.document field = values field ↔
      (schema.spec field).type.Holdable (values field) := by
  have trims := text_valuesFrom_reread wellFormed oneLine manager field
  constructor
  · intro same
    refine FieldType.isValue_format_iff.1 (isValue_of_trimmed (oneLine field) ?_)
    exact trims.symm.trans (congrArg (schema.spec field).type.format same)
  · intro holdable
    have isValue := FieldType.isValue_format_iff.2 holdable
    exact FieldType.format_injective (trims.trans (trimmed_of_isValue isValue))

theorem Holdable.one_line (holdable : values.Holdable) (field : schema.Field) :
    '\n' ∉ (values.text field).toList :=
  (FieldType.isValue_format_iff.2 (holdable field)).one_line

theorem Holdable.valuesFrom_reread (holdable : values.Holdable) (wellFormed : schema.WellFormed)
    (manager : Manager schema) : manager.valuesFrom values.reread.document = values := by
  ext field
  exact (valuesFrom_reread_field_iff wellFormed holdable.one_line manager field).2 (holdable field)

theorem one_line_of_taking {content : Section} (holdable : content.Holdable) {field : schema.Field}
    {written : String} (got : content.get? (schema.key field) = some written)
    (same : fallback.taking content = values) : '\n' ∉ (values.text field).toList := by
  obtain ⟨other, shares, line, gotOther, kept⟩ : ∃ other, schema.Shares other field ∧
      ∃ line, content.get? (schema.key other) = some line ∧
        ((schema.spec other).type.parse? line).getD (values other) = values other := by
    rcases taking_cases content field with ⟨nothing, -⟩ | ⟨other, shares, taken⟩
    · have refused := nothing field (.refl field)
      rw [Section.given?, got, Option.bind_some] at refused
      exact ⟨field, .refl field, written, got, by rw [refused, Option.getD_none]⟩
    · obtain ⟨line, gotOther, read⟩ := Option.bind_eq_some_iff.1 (taken fallback)
      rw [same] at read
      exact ⟨other, shares, line, gotOther, by rw [read, Option.getD_some]⟩
  rw [← values.text_eq_of_shares shares]
  exact FieldType.one_line_of_read (holdable.isValue_of_get? gotOther).one_line kept

/-- Reading the section of the values gives them back exactly if the file can hold them. -/
theorem valuesFrom_reread_iff (wellFormed : schema.WellFormed) (path : Path) :
    (Manager.new path fallback).valuesFrom values.reread.document = values ↔ values.Holdable := by
  constructor
  · intro same
    by_cases oneLine : ∀ field, '\n' ∉ (values.text field).toList
    · intro field
      have read := valuesFrom_reread_field_iff wellFormed oneLine (Manager.new path fallback) field
      exact read.1 (by rw [same])
    · obtain ⟨field, content, written, feed, found, got⟩ :=
        reread_of_not_one_line wellFormed (by simpa using oneLine)
      rw [valuesFrom_of_section? found] at same
      exact absurd feed
        (one_line_of_taking (Document.holdable_of_section?_scan found) got same)
  · intro holdable
    exact holdable.valuesFrom_reread wellFormed _

theorem problems_reread (wellFormed : schema.WellFormed) (holdable : values.Holdable) :
    Command.problems schema values.reread = [] := by
  rw [reread_of_holdable wellFormed holdable, Command.problems]
  have found := Document.section?_singleton (values.sectionOf schema.fields)
  change (Document.mk [values.sectionOf schema.fields]).section? schema.title = _ at found
  rw [found]
  refine List.filterMap_eq_nil_iff.2 fun pair member => ?_
  obtain ⟨field, -, rfl⟩ := List.mem_map.1 member
  simp only [Command.pairProblem, pair, wellFormed.keyed?_key field, text, FieldType.parse?_format]

end Values

/-- What is stored without a fault is loaded again as it was exactly if the file can hold all of
it, and then there is nothing wrong with the file. -/
theorem Manager.load_store_iff (wellFormed : schema.WellFormed) (manager : Manager schema)
    (defaults : Values schema) {memory : Memory} (faultless : memory.Faultless) :
    let stored := manager.store.run memory
    let fresh := Manager.new manager.path defaults
    let loaded := fresh.load.run stored.store
    stored.value = .ok () ∧ loaded.value.result = .ok true ∧
      (loaded.value.manager.values = manager.values ↔ manager.values.Holdable) ∧
      (manager.values.Holdable → ((Command.check fresh).run stored.store).value = .ok []) := by
  intro stored fresh loaded
  obtain ⟨between, saved, contents⟩ :=
    faultless.save manager.toDocument manager.path manager.mode
  have same := between _ (Script.mem_states_end manager.store memory)
  have readable : stored.store.faults.read = false := by
    rw [(faultless.sameBut same).faults]
  have reply := Memory.answer_read readable contents
  have reread : Document.scan (Text.Utf8.decode (Text.Utf8.encode manager.toDocument.render)) =
      manager.values.reread := by
    rw [Text.Utf8.decode_encode, Manager.toDocument, Manager.toSection_eq wellFormed]
    rfl
  have outcome := (load_ensures fresh rfl reply).after
  have checked := (Command.check_ensures fresh reply).after
  rw [reread] at outcome checked
  change loaded.value = _ at outcome
  refine ⟨saved, by rw [outcome], ?_, fun holdable => ?_⟩
  · rw [outcome]
    exact Values.valuesFrom_reread_iff wellFormed manager.path
  · rw [checked, Values.problems_reread wellFormed holdable]

def Device.configured : Manager Device.schema :=
  (Manager.new ⟨"device.ini"⟩ (Values.initial Device.schema)).put
    ((Values.initial Device.schema).set Device.portPlace Device.otherPort)

theorem Manager.load_store_configured :
    Device.schema.WellFormed ∧ Memory.empty.Faultless ∧ Device.configured.values.Holdable ∧
      ((Manager.new Device.configured.path Device.configured.defaults).load.run
        (Device.configured.store.run Memory.empty).store).value.manager.values =
          Device.configured.values := by
  have faultless : Memory.empty.Faultless := ⟨rfl, rfl, rfl⟩
  have holdable : Device.configured.values.Holdable := by decide
  obtain ⟨-, -, same, -⟩ := Manager.load_store_iff Device.wellFormed Device.configured
    Device.configured.defaults faultless
  exact ⟨Device.wellFormed, faultless, holdable, same.2 holdable⟩

end IniSettings
