import IniSettings.Proofs.Manager.Committing

/-!
# What boxed writes can do to the file

Whoever writes boxed values by name, and whatever they are, the file that is stored has the lines
of the table and no others: one section, a line for each field, and the old text on the line of
each field that shares its member with none that a write was answered to have changed.
-/

namespace IniSettings

variable {schema : Schema}

namespace Values

variable {values : Values schema} {path : Path} {memory : Memory}

theorem StoredAt.scan (wellFormed : schema.WellFormed) (stored : values.StoredAt path memory)
    (holdable : values.Holdable) :
    ∃ bytes, memory.contents? path = some bytes ∧
      Document.scan (Text.Utf8.decode bytes) = ⟨⟨[values.sectionOf schema.fields]⟩, []⟩ := by
  refine ⟨_, stored, ?_⟩
  rw [Text.Utf8.decode_encode]
  exact reread_of_holdable wellFormed holdable

end Values

/-- Of a transaction of boxed writes that was stored, whatever was written, the file is read without
a complaint, as the section of the table with all of its keys in their order. The entries of the
fields that share their members with none that was answered to have changed are those that would
have been stored before, and no field that is read only was answered to have changed. -/
theorem Manager.boxed_writes_confined (wellFormed : schema.WellFormed) {manager : Manager schema}
    (idle : manager.table.updating = false) (holdable : manager.values.Holdable) (origin : Origin)
    (writes : List (String × BoxedValue)) (memory : Memory) :
    ∃ scope exchanges last, manager.beginUpdate origin = .ok scope ∧
      scope.serve (writes.map Request.ofBox) = (.ok exchanges, last) ∧
      exchanges.map Exchange.request = writes.map Request.ofBox ∧
      let changed := exchanges.filterMap Exchange.changed?
      let committed := last.commit.run memory
      (∀ field, (schema.spec field).isReadOnly = true → field ∉ changed) ∧
      (committed.value.result = .ok (.ok true) → ∃ bytes content before,
        committed.store.contents? manager.path = some bytes ∧
        Document.scan (Text.Utf8.decode bytes) = ⟨⟨[content]⟩, []⟩ ∧
        content.name = schema.title ∧ content.keys = schema.fields.map schema.key ∧
        manager.toDocument.section? schema.title = some before ∧
        ∀ field, (∀ other ∈ changed, ¬ schema.Shares other field) →
          content.get? (schema.key field) = before.get? (schema.key field)) := by
  obtain ⟨exchanges, asked, served⟩ := manager.serve_eq origin (writes.map Request.ofBox)
  refine ⟨_, exchanges, _, beginUpdate_eq idle origin, served, asked, ?_⟩
  intro changed committed
  have run : committed = (manager.commit origin (writes.map Request.ofBox)).run memory :=
    (Scope.run_commit _ memory).trans (run_commit idle origin served memory).symm
  refine ⟨fun field readOnly member => ?_, fun answered => ?_⟩
  · exact Bool.false_ne_true ((Scope.serve_writable served member).symm.trans readOnly)
  let final := (writes.map Request.ofBox).foldl Values.give manager.values
  have finalHoldable : final.Holdable :=
    holdable.foldl_give fun request member => Request.holdable_of_mem_ofBox member
  rw [run] at answered ⊢
  have stored : final.StoredAt manager.path
      ((manager.commit origin (writes.map Request.ofBox)).run memory).store := by
    rcases commit_answer wellFormed idle answered with ⟨-, stored⟩ | ⟨unchanged, -⟩
    · exact stored
    · cases unchanged
  obtain ⟨bytes, there, scanned⟩ := stored.scan wellFormed finalHoldable
  refine ⟨bytes, final.sectionOf schema.fields, manager.values.sectionOf schema.fields, there,
    scanned, rfl, final.keys_sectionOf schema.fields, ?_, fun field apart => ?_⟩
  · rw [toDocument_eq wellFormed]
    exact Document.section?_singleton _
  · have kept : final field = manager.values field := Scope.serve_kept served apart
    rw [Values.get?_sectionOf wellFormed, Values.get?_sectionOf wellFormed, Values.text,
      Values.text, kept]

def Device.tampering : List (String × BoxedValue) :=
  [("@net:device:hostname", .text "gate\nserial = S-2"), ("@sys:device:serial", .text "S-2"),
    ("@net:device:port", .unsigned 81)]

theorem Manager.boxed_writes_confined_device :
    Device.schema.WellFormed ∧ Device.factory.table.updating = false ∧
      Device.factory.values.Holdable ∧
      ∃ scope exchanges last bytes content, Device.factory.beginUpdate .here = .ok scope ∧
        scope.serve (Device.tampering.map Request.ofBox) = (.ok exchanges, last) ∧
        (last.commit.run Memory.empty).value.result = .ok (.ok true) ∧
        (last.commit.run Memory.empty).store.contents? Device.factory.path = some bytes ∧
        Document.scan (Text.Utf8.decode bytes) = ⟨⟨[content]⟩, []⟩ ∧
        content.get? "serial" = some "UNSET" := by
  have idle : Device.factory.table.updating = false := rfl
  have holdable : Device.factory.values.Holdable := by decide
  obtain ⟨scope, exchanges, last, begun, served, -, readOnly, confined⟩ :=
    boxed_writes_confined Device.wellFormed idle holdable .here Device.tampering Memory.empty
  obtain rfl := Except.ok.inj begun
  obtain rfl := Except.ok.inj (congrArg Prod.fst served)
  obtain rfl := congrArg Prod.snd served
  have answered : ((Device.factory.commit .here (Device.tampering.map Request.ofBox)).run
      Memory.empty).value.result = .ok (.ok true) := by rfl
  obtain ⟨bytes, content, before, there, scanned, -, -, document, kept⟩ := confined answered
  have apart := readOnly (4 : Fin 5) rfl
  have serial := kept (4 : Fin 5) fun other member shares =>
    apart (Device.alone (4 : Fin 5) other shares ▸ member)
  obtain rfl := Option.some.inj document
  exact ⟨Device.wellFormed, idle, holdable, _, _, _, bytes, content, begun, served, answered,
    there, scanned, serial⟩

/-- What is written under one name of a member stands in the file under its other name too, though
that one is read only and no write to it was answered with a change. -/
theorem Manager.boxed_writes_not_confined_aliased :
    let device := Manager.new ⟨"device.ini"⟩ (Values.initial Device.aliased)
    let writes := [("@net:device:port", BoxedValue.unsigned 81)]
    Device.aliased.WellFormed ∧ device.table.updating = false ∧ device.values.Holdable ∧
      (Device.aliased.spec (1 : Fin 2)).isReadOnly = true ∧
      ∃ scope exchanges last bytes content before, device.beginUpdate .here = .ok scope ∧
        scope.serve (writes.map Request.ofBox) = (.ok exchanges, last) ∧
        exchanges.filterMap Exchange.changed? = [(0 : Fin 2)] ∧
        (last.commit.run Memory.empty).value.result = .ok (.ok true) ∧
        (last.commit.run Memory.empty).store.contents? device.path = some bytes ∧
        Document.scan (Text.Utf8.decode bytes) = ⟨⟨[content]⟩, []⟩ ∧
        device.toDocument.section? "device" = some before ∧
        before.get? "listening" = some "8080" ∧ content.get? "listening" = some "81" := by
  intro device writes
  have stored : Document.scan
      (Text.Utf8.decode (Text.Utf8.encode "[device]\nport = 81\nlistening = 81\n")) =
        ⟨⟨[⟨"device", [("port", "81"), ("listening", "81")]⟩]⟩, []⟩ := by
    rw [Text.Utf8.decode_encode]
    decide
  refine ⟨Device.wellFormed_aliased, rfl, by decide, rfl, _, _, _, _, _, _, rfl, rfl, rfl, ?_, ?_,
    stored, rfl, ?_, rfl⟩ <;> decide +kernel

end IniSettings
