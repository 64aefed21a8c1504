import IniSettings.Proofs.Manager.Persistence

/-!
# Loading what was stored

A manager that loads a file in which values were stored gets those of them that the file can hold,
as long as none of the others breaks its line. Nothing that the manager held before matters.
-/

namespace IniSettings
open Format Text

variable {schema : Schema}

namespace Values

variable {values : Values schema} {path : Path} {memory : Memory}

def StoredAt (values : Values schema) (path : Path) (memory : Memory) : Prop :=
  memory.contents? path =
    some (Utf8.encode (Document.mk [values.sectionOf schema.fields]).render)

theorem StoredAt.of_files (stored : values.StoredAt path memory) {later : Memory}
    (files : later.files = memory.files) : values.StoredAt path later := by
  rw [StoredAt, Memory.contents?, files]
  exact stored

theorem StoredAt.loadedFrom (stored : values.StoredAt path memory)
    (readable : memory.faults.read = false) (manager : Manager schema) :
    manager.loadedFrom (memory.read path) = manager.valuesFrom values.reread.document := by
  have reply := congrArg Prod.fst (Memory.answer_read readable stored)
  change memory.read path = _ at reply
  rw [reply, Manager.loadedFrom, Utf8.decode_encode]
  rfl

theorem holdable_valuesFrom_reread (wellFormed : schema.WellFormed)
    (oneLine : ∀ field, '\n' ∉ (values.text field).toList) (manager : Manager schema) :
    (manager.valuesFrom values.reread.document).Holdable := by
  intro field
  refine FieldType.isValue_format_iff.1 ?_
  show IsValue ((manager.valuesFrom values.reread.document).text field)
  rw [text_valuesFrom_reread wellFormed oneLine]
  exact isValue_trimmed (oneLine field)

end Values

namespace Manager

def Fresh (manager : Manager schema) : Prop :=
  manager.table = Table.new manager.defaults

theorem fresh_new (path : Path) (defaults : Values schema) : (new path defaults).Fresh := rfl

theorem Fresh.idle {manager : Manager schema} (fresh : manager.Fresh) :
    manager.table.updating = false := by
  rw [fresh]
  rfl

theorem Fresh.values {manager : Manager schema} (fresh : manager.Fresh) :
    manager.values = manager.defaults := by
  rw [Manager.values, fresh]
  rfl

theorem Fresh.loadedFrom_eq {manager again : Manager schema} (fresh : manager.Fresh)
    (freshAgain : again.Fresh) (sameDefaults : again.defaults = manager.defaults)
    (reply : Except IoError Bytes) : again.loadedFrom reply = manager.loadedFrom reply := by
  have sameValues : again.values = manager.values := by
    rw [freshAgain.values, fresh.values, sameDefaults]
  cases reply with
  | error error => exact sameDefaults
  | ok bytes => rw [loadedFrom, loadedFrom, valuesFrom, valuesFrom, sameValues, sameDefaults]

variable {manager : Manager schema}

theorem toDocument_eq (wellFormed : schema.WellFormed) (manager : Manager schema) :
    manager.toDocument = ⟨[manager.values.sectionOf schema.fields]⟩ := by
  rw [toDocument, toSection_eq wellFormed]

theorem store_storedAt (wellFormed : schema.WellFormed) (manager : Manager schema)
    (memory : Memory) (stored : (manager.store.run memory).value = .ok ()) :
    manager.values.StoredAt manager.path (manager.store.run memory).store := by
  have saved :=
    (Document.save_ensures manager.toDocument manager.path manager.mode memory).after stored
  rw [Values.StoredAt, ← toDocument_eq wellFormed]
  exact saved

theorem store_faultless (manager : Manager schema) {memory : Memory}
    (faultless : memory.Faultless) :
    (manager.store.run memory).value = .ok () ∧ (manager.store.run memory).store.Faultless := by
  obtain ⟨between, saved, -⟩ := faultless.save manager.toDocument manager.path manager.mode
  exact ⟨saved, faultless.sameBut (between _ (Script.mem_states_end manager.store memory))⟩

theorem run_load (idle : manager.table.updating = false) (memory : Memory) :
    (manager.load.run memory).value =
        ⟨manager.put (manager.loadedFrom (memory.read manager.path)), .ok true⟩ ∧
      (manager.load.run memory).store = memory :=
  load_eq manager idle memory

theorem reload_faultless (wellFormed : schema.WellFormed) (manager : Manager schema)
    {memory : Memory} (faultless : memory.Faultless) {again : Manager schema}
    (idle : again.table.updating = false) (samePath : again.path = manager.path) :
    let stored := manager.store.run memory
    stored.value = .ok () ∧ (again.load.run stored.store).value =
      ⟨again.put (again.valuesFrom manager.values.reread.document), .ok true⟩ := by
  intro stored
  obtain ⟨saved, still⟩ := store_faultless manager faultless
  have readable : stored.store.faults.read = false := by
    rw [still.faults]
  have there := store_storedAt wellFormed manager memory saved
  refine ⟨saved, ?_⟩
  rw [(run_load idle stored.store).1, samePath, there.loadedFrom readable again]

theorem loadedFrom_of_absent {memory : Memory} {path : Path}
    (absent : memory.contents? path = none) :
    manager.loadedFrom (memory.read path) = manager.defaults := by
  rw [Memory.read, absent]
  split <;> rfl

/-- A manager with the same defaults that loads the file holds exactly those values. -/
structure InFile (memory : Memory) (path : Path) (defaults values : Values schema) : Prop where
  holdable : values.Holdable
  file : values.StoredAt path memory ∨ memory.contents? path = none ∧ values = defaults

variable {memory : Memory} {path : Path} {defaults values : Values schema}

theorem InFile.of_files (inFile : InFile memory path defaults values) {later : Memory}
    (files : later.files = memory.files) : InFile later path defaults values := by
  refine ⟨inFile.holdable, inFile.file.imp (·.of_files files) fun absent => ⟨?_, absent.2⟩⟩
  rw [Memory.contents?, files]
  exact absent.1

theorem InFile.loadedFrom (wellFormed : schema.WellFormed)
    (inFile : InFile memory path manager.defaults values)
    (readable : memory.faults.read = false) :
    manager.loadedFrom (memory.read path) = values := by
  rcases inFile.file with stored | ⟨absent, same⟩
  · rw [stored.loadedFrom readable]
    exact inFile.holdable.valuesFrom_reread wellFormed manager
  · rw [loadedFrom_of_absent absent, same]

end Manager

def Device.factory : Manager Device.schema :=
  Manager.new ⟨"device.ini"⟩ (Values.initial Device.schema)

end IniSettings
