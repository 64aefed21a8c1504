import IniSettings.Proofs.Document.Assignments
import IniSettings.Proofs.Manager.Loading
import IniSettings.Proofs.Storage.Memory
import IniSettings.Proofs.Text.Utf8

/-!
# What loading takes and tells

All that a load does is told by the reply to its one call: which values the fields get, and the
entries of the log. A field that shares its member with no other is on its own. It gets the value
that the section assigned last to its key, and a text that its type refuses leaves it alone and is
logged.
-/

namespace IniSettings

def LogEntry.isWarning (entry : LogEntry) : Bool :=
  entry.level == .warn

variable {schema : Schema}

theorem Section.isWarning_of_mem_refusals {content : Section} {path : Path}
    {fields : List schema.Field} {entry : LogEntry}
    (member : entry ∈ content.refusals path fields) : entry.isWarning = true := by
  obtain ⟨field, -, refused⟩ := List.mem_filterMap.1 member
  obtain ⟨written, -, refused⟩ := Option.bind_eq_some_iff.1 refused
  rw [Schema.refusal?] at refused
  split at refused
  · obtain rfl := Option.some.inj refused
    rfl
  · cases refused

namespace Manager

variable {σ : Type} [Backend σ] {manager : Manager schema}

theorem load_tells (idle : manager.table.updating = false) (store : σ) :
    (manager.load.run store).calls = [.read manager.path] ∧
      (manager.load.run store).notifications = [] ∧
      (manager.load.run store).entries =
        manager.loadEntries (Backend.answer (.read manager.path) store).1 :=
  Run.shown_of_trace (congrArg Run.trace (run_load_eq idle store))

theorem warnings_loadEntries {bytes : Bytes} {content : Section}
    (found : (Document.scan (Text.Utf8.decode bytes)).document.section? schema.title =
      some content) :
    (manager.loadEntries (.ok bytes)).filter LogEntry.isWarning =
      content.refusals manager.path schema.fields := by
  have quiet (diagnostics : List Diagnostic) :
      (diagnostics.map (.malformedLine manager.path.text)).filter LogEntry.isWarning = [] := by
    refine List.filter_eq_nil_iff.2 fun entry member => ?_
    obtain ⟨diagnostic, -, rfl⟩ := List.mem_map.1 member
    exact Bool.false_ne_true
  have all : (content.refusals manager.path schema.fields).filter LogEntry.isWarning =
      content.refusals manager.path schema.fields :=
    List.filter_eq_self.2 fun _ member => Section.isWarning_of_mem_refusals member
  rw [loadEntries, entriesFrom, found, List.filter_append, quiet, List.filter_append, all]
  exact List.append_nil _

theorem valuesFrom_of_not_mem {text : String} (missing : schema.title ∉ Document.headers text) :
    manager.valuesFrom (Document.scan text).document = manager.defaults := by
  rw [← Document.section?_scan_isSome_iff, Option.not_isSome_iff_eq_none] at missing
  rw [valuesFrom, missing]

theorem valuesFrom_of_section {document : Document} {content : Section}
    (found : document.section? schema.title = some content) {field : schema.Field}
    (alone : schema.Alone field) :
    manager.valuesFrom document field =
      ((document.value? schema.title (schema.key field)).bind
        (schema.spec field).type.parse?).getD (manager.values field) := by
  rw [valuesFrom, Document.value?, found]
  exact Values.taking_eq_of_alone alone manager.values

theorem loadedFrom_put_loadedFrom (manager : Manager schema) (reply : Except IoError Bytes) :
    (manager.put (manager.loadedFrom reply)).loadedFrom reply = manager.loadedFrom reply := by
  cases reply with
  | error error => rfl
  | ok bytes =>
    simp only [loadedFrom, valuesFrom]
    cases (Document.scan (Text.Utf8.decode bytes)).document.section? schema.title with
    | none => rfl
    | some content => exact manager.values.taking_taking content

/-- Loading answers that the table is valid. Only the values of the table can change: to the
defaults if there is no file or no section to read, and else, unless fields share a member, each
field for itself, by the last value that the section assigns to its key. There is one warning for
each of these values that a field refuses. Loading the same once more changes nothing. -/
theorem load_exact (idle : manager.table.updating = false) (store : σ) :
    let asked := Backend.answer (.read manager.path) store
    let loaded := manager.load.run store
    let after := loaded.value.manager
    loaded.value.result = .ok true ∧ after.table.valid = true ∧
      after = { manager with
        table := { manager.table with values := after.values, valid := true } } ∧
      loaded.store = asked.2 ∧ loaded.calls = [.read manager.path] ∧ loaded.notifications = [] ∧
      (∀ error, asked.1 = .error error → after.values = manager.defaults) ∧
      (∀ bytes, asked.1 = .ok bytes →
        let text := Text.Utf8.decode bytes
        let written (field : schema.Field) :=
          Document.lastAssigned text schema.title (schema.key field)
        (schema.title ∉ Document.headers text → after.values = manager.defaults) ∧
        (schema.title ∈ Document.headers text →
          (∀ field, schema.Alone field → after.values field =
            ((written field).bind (schema.spec field).type.parse?).getD (manager.values field)) ∧
          loaded.entries.filter LogEntry.isWarning =
            schema.fields.filterMap fun field =>
              (written field).bind (schema.refusal? manager.path field))) ∧
      ∀ later : σ, (Backend.answer (.read manager.path) later).1 = asked.1 →
        (after.load.run later).value.manager = after := by
  intro asked loaded after
  obtain ⟨value, same⟩ := load_eq manager idle store
  obtain ⟨calls, notifications, entries⟩ := load_tells idle store
  have put : after = manager.put (manager.loadedFrom asked.1) := congrArg Outcome.manager value
  refine ⟨congrArg Outcome.result value, ?_, ?_, same, calls, notifications,
    fun error failed => ?_, fun bytes read => ?_, fun later again => ?_⟩
  · rw [put]
    rfl
  · rw [put]
    rfl
  · rw [put, failed]
    rfl
  · intro text written
    have values : after.values = manager.valuesFrom (Document.scan text).document := by
      rw [put, read]
      rfl
    refine ⟨fun missing => values.trans (valuesFrom_of_not_mem missing), fun present => ?_⟩
    rw [← Document.section?_scan_isSome_iff] at present
    obtain ⟨content, found⟩ := Option.isSome_iff_exists.1 present
    refine ⟨fun field alone => ?_, ?_⟩
    · rw [values, valuesFrom_of_section found alone, Document.value?_scan]
    · rw [entries, read, warnings_loadEntries found]
      simp only [Section.refusals, written, ← Document.value?_scan, Document.value?, found,
        Option.bind_some]
  · have idleAfter : after.table.updating = false := by
      rw [put]
      exact idle
    have samePath : after.path = manager.path := by rw [put]; rfl
    rw [(load_eq after idleAfter later).1, samePath, again, put, loadedFrom_put_loadedFrom]
    rfl

end Manager

def Device.patch : String :=
  "[device]\nport = 81\nmtu\n[other]\nport = 3\n[device]\nport = x\nlan = 1\nmtu = 9000\n"

def Device.patched : Memory :=
  Memory.empty.insert ⟨"device.ini"⟩ (Text.Utf8.encode Device.patch)

theorem Device.read_patched :
    Backend.answer (.read ⟨"device.ini"⟩) Device.patched =
      (.ok (Text.Utf8.encode Device.patch), Device.patched) := by
  refine Memory.answer_read rfl ?_
  exact (Memory.contents?_put _ _ _).trans (congrArg some (Contents.bytes_ofBytes _))

theorem Manager.load_exact_patched :
    let device := Manager.new ⟨"device.ini"⟩ (Values.initial Device.schema)
    let loaded := device.load.run Device.patched
    device.table.updating = false ∧ loaded.value.result = .ok true ∧
      loaded.store = Device.patched ∧
      loaded.value.manager.values (1 : Fin 5) = Fin.mk 8080 (by decide) ∧
      loaded.value.manager.values (3 : Fin 5) = Fin.mk 9000 (by decide) ∧
      loaded.entries.filter LogEntry.isWarning =
        [.valueIgnored ⟨"device.ini"⟩ "@net:device:port" "x"] := by
  intro device loaded
  have idle : device.table.updating = false := rfl
  obtain ⟨answered, -, -, kept, -, -, -, reads, -⟩ := load_exact idle Device.patched
  have taken := reads _ (congrArg Prod.fst Device.read_patched)
  rw [Text.Utf8.decode_encode] at taken
  obtain ⟨values, warnings⟩ := taken.2 (by decide)
  exact ⟨idle, answered, kept.trans (congrArg Prod.snd Device.read_patched),
    values (1 : Fin 5) (Device.alone _), values (3 : Fin 5) (Device.alone _), warnings⟩

end IniSettings
