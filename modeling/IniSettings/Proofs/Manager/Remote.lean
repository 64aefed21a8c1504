import IniSettings.Proofs.Manager.Committing

/-!
# Values from files and boxes

A manager that takes its values from files and from boxed writes only. What it holds stands on one
line and does not begin with a blank, and the file can hold it, but for a text of bounded size that
the file gave and that was cut right after a blank. Storing and loading gives all values back
exactly if there is no such text.
-/

namespace IniSettings
open Format Text Script

variable {schema : Schema} {σ : Type} [Backend σ]

/-- The section has a text for the field that is cut right after a blank. -/
def Section.CutAtBlank (content : Section) (field : schema.Field) : Prop :=
  ∃ written value, content.get? (schema.key field) = some written ∧
    (schema.spec field).type.parse? written = some value ∧
    (schema.spec field).type.EndsInBlank value

namespace Values

variable {values : Values schema} {content : Section}

theorem taken_taking {cut : Prop} (holdable : content.Holdable)
    (taken : ∀ field, (schema.spec field).type.Taken cut (values field)) (field : schema.Field) :
    (schema.spec field).type.Taken (cut ∨ ∃ other : schema.Field, content.CutAtBlank other)
      (values.taking content field) := by
  rcases taking_cases content field with ⟨-, kept⟩ | ⟨other, shares, given⟩
  · rw [kept]
    exact (taken field).imp .inl
  · obtain ⟨written, found, read⟩ := Option.bind_eq_some_iff.1 (given values)
    have taken : (schema.spec other).type.Taken
        (cut ∨ ∃ other : schema.Field, content.CutAtBlank other) (values.taking content other) :=
      ⟨⟨written, holdable.isValue_of_get? found, read⟩,
        fun uncut ends => uncut (.inr ⟨other, written, _, found, read, ends⟩)⟩
    exact shares.transport (P := fun type => type.Taken _)
      ((values.taking content).shared shares) taken

end Values

namespace Manager

def CutsAtBlank (manager : Manager schema) (store : σ) : Prop :=
  ∃ bytes content, ∃ field : schema.Field,
    (Backend.answer (.read manager.path) store).1 = .ok bytes ∧
    (Document.scan (Utf8.decode bytes)).document.section? schema.title = some content ∧
    content.CutAtBlank field

variable {manager : Manager schema}

theorem loadedFrom_cases (manager : Manager schema) (reply : Except IoError Bytes) :
    manager.loadedFrom reply = manager.defaults ∨ ∃ bytes content, reply = .ok bytes ∧
      (Document.scan (Utf8.decode bytes)).document.section? schema.title = some content ∧
      manager.loadedFrom reply = manager.values.taking content := by
  cases reply with
  | error error => exact .inl rfl
  | ok bytes =>
    rw [loadedFrom, valuesFrom]
    cases found : (Document.scan (Utf8.decode bytes)).document.section? schema.title with
    | none => exact .inl rfl
    | some content => exact .inr ⟨bytes, content, rfl, found, rfl⟩

/-- What a manager and its files come to by loading, resetting, storing and boxed writes, and
whether a text was cut right after a blank on the way. In between, the files may become any. -/
inductive Remote : Manager schema → σ → Prop → Prop where
  | new (path : Path) {defaults : Values schema} (holdable : defaults.Holdable) (store : σ) :
      Remote (new path defaults) store False
  | withMode {manager : Manager schema} {store : σ} {cut : Prop} (mode : WriteMode)
      (before : Remote manager store cut) : Remote (manager.withMode mode) store cut
  | observe {manager : Manager schema} {store : σ} {cut : Prop} (label : String)
      (failure : Nat → Option String) (before : Remote manager store cut) :
      Remote (manager.observe label failure) store cut
  | meanwhile {manager : Manager schema} {store : σ} {cut : Prop} (later : σ)
      (before : Remote manager store cut) : Remote manager later cut
  | load {manager : Manager schema} {store : σ} {cut : Prop}
      (before : Remote manager store cut) :
      Remote (manager.load.run store).value.manager (manager.load.run store).store
        (cut ∨ manager.CutsAtBlank store)
  | reset {manager : Manager schema} {store : σ} {cut : Prop}
      (before : Remote manager store cut) : Remote manager.reset store cut
  | store {manager : Manager schema} {store : σ} {cut : Prop}
      (before : Remote manager store cut) : Remote manager (manager.store.run store).store cut
  | transaction {manager : Manager schema} {store : σ} {cut : Prop} (origin : Origin)
      (writes : List (String × BoxedValue)) (ending : Ending)
      (before : Remote manager store cut) :
      Remote
        ((manager.transaction origin (writes.map Request.ofBox) ending).run store).value
        ((manager.transaction origin (writes.map Request.ofBox) ending).run store).store cut

structure Fed (manager : Manager schema) (cut : Prop) : Prop where
  idle : manager.table.updating = false
  defaults : manager.defaults.Holdable
  taken : ∀ field, (schema.spec field).type.Taken cut (manager.values field)

theorem Fed.put {cut later : Prop} (fed : manager.Fed cut) {values : Values schema}
    (taken : ∀ field, (schema.spec field).type.Taken later (values field)) :
    (manager.put values).Fed later :=
  ⟨fed.idle, fed.defaults, taken⟩

theorem Fresh.fed {cut : Prop} (fresh : manager.Fresh) (holdable : manager.defaults.Holdable) :
    manager.Fed cut := by
  refine ⟨fresh.idle, holdable, ?_⟩
  rw [fresh.values]
  exact fun field => (holdable field).taken

theorem Fed.load {cut : Prop} (fed : manager.Fed cut) (store : σ) :
    (manager.load.run store).value.manager.Fed (cut ∨ manager.CutsAtBlank store) := by
  rw [(load_eq manager fed.idle store).1]
  rcases manager.loadedFrom_cases (Backend.answer (.read manager.path) store).1 with
    same | ⟨bytes, content, reply, found, same⟩
  · rw [same]
    exact fed.put fun field => (fed.defaults field).taken
  · rw [same]
    -- What was read is trimmed, whatever the file is, so only a cut can leave a blank at an end.
    have holdable := Document.holdable_of_section?_scan found
    refine fed.put fun field => (Values.taken_taking holdable fed.taken field).imp ?_
    rintro (before | ⟨other, cuts⟩)
    · exact .inl before
    · exact .inr ⟨bytes, content, other, reply, found, cuts⟩

theorem Fed.transaction {cut : Prop} (fed : manager.Fed cut) (origin : Origin)
    (writes : List (String × BoxedValue)) (ending : Ending) (store : σ) :
    ((manager.transaction origin (writes.map Request.ofBox) ending).run store).value.Fed cut := by
  rw [(run_transaction fed.idle origin _ ending store).1]
  have left := commit_left fed.idle origin (writes.map Request.ofBox) store
  refine ⟨left.idle, left.defaults ▸ fed.defaults, ?_⟩
  rw [left.values]
  refine Values.forall_foldl_give (P := fun type => type.Taken cut) ?_ fed.taken
  intro request member field value gives
  exact ((Request.holdable_of_mem_ofBox member).of_gives gives).taken

theorem Remote.fed {store : σ} {cut : Prop} (remote : manager.Remote store cut) :
    manager.Fed cut := by
  induction remote with
  | new path holdable store => exact (fresh_new path _).fed holdable
  | withMode mode before ih => exact ⟨ih.idle, ih.defaults, ih.taken⟩
  | observe label failure before ih => exact ⟨ih.idle, ih.defaults, ih.taken⟩
  | meanwhile later before ih => exact ih
  | load before ih => exact ih.load _
  | reset before ih => exact ih.put fun field => (ih.defaults field).taken
  | store before ih => exact ih
  | transaction origin writes ending before ih => exact ih.transaction origin writes ending _

/-- Whatever was loaded and written from outside, no text spans lines or begins with a blank, and
the file can hold all of them if none of those that were loaded was cut right after a blank.
Storing and loading again takes the blanks off the ends of texts that were, and nothing else. -/
theorem Remote.storable (wellFormed : schema.WellFormed) {store : σ} {cut : Prop}
    (remote : manager.Remote store cut) :
    (∀ field, '\n' ∉ (manager.values.text field).toList ∧
        (manager.values.text field).toList.head?.any isBlank = false ∧
        ((schema.spec field).type.Holdable (manager.values field) ↔
          ¬ (schema.spec field).type.EndsInBlank (manager.values field))) ∧
      (¬ cut → manager.values.Holdable) ∧
      ∀ (defaults : Values schema) (memory : Memory), memory.Faultless →
        let stored := manager.store.run memory
        let reloaded := (Manager.new manager.path defaults).load.run stored.store
        stored.value = .ok () ∧ reloaded.value.result = .ok true ∧
          reloaded.value.manager.values.Holdable ∧
          ∀ field,
            reloaded.value.manager.values.text field = trimmed (manager.values.text field) ∧
            (reloaded.value.manager.values field = manager.values field ↔
              ¬ (schema.spec field).type.EndsInBlank (manager.values field)) := by
  have fed := remote.fed
  have loadable := fun field => (fed.taken field).loadable
  have oneLine := fun field => (loadable field).one_line
  refine ⟨fun field => ?_, fun uncut field => ?_, ?_⟩
  · exact ⟨oneLine field, (loadable field).no_blank_start, (loadable field).holdable_iff⟩
  · exact (loadable field).holdable_iff.2 ((fed.taken field).whole uncut)
  · intro defaults memory faultless stored reloaded
    let fresh := Manager.new manager.path defaults
    have idle : fresh.table.updating = false := rfl
    have samePath : fresh.path = manager.path := rfl
    obtain ⟨saved, loaded⟩ := reload_faultless wellFormed manager faultless idle samePath
    change reloaded.value = _ at loaded
    rw [loaded]
    refine ⟨saved, rfl, Values.holdable_valuesFrom_reread wellFormed oneLine fresh, fun field => ?_⟩
    refine ⟨Values.text_valuesFrom_reread wellFormed oneLine fresh field, ?_⟩
    exact (Values.valuesFrom_reread_field_iff wellFormed oneLine fresh field).trans
      (loadable field).holdable_iff

end Manager

def Device.longNamed : Memory :=
  Memory.empty.insert Device.factory.path
    (Utf8.encode "[device]\nhostname = the gateway in the north cellar 2\n")

def Device.gateway : Manager Device.schema :=
  (Device.factory.load.run Device.longNamed).value.manager

theorem Device.gateway_text :
    Device.gateway.values.text (0 : Fin 5) = "the gateway in the north cellar " := by
  rfl

theorem Device.remote_gateway :
    Device.gateway.Remote Device.longNamed
      (False ∨ Device.factory.CutsAtBlank Device.longNamed) := by
  have fresh : Device.factory.Remote Device.longNamed False := .new _ (by decide) _
  have loaded := fresh.load
  rwa [(Manager.load_eq Device.factory rfl Device.longNamed).2] at loaded

theorem Manager.Remote.storable_gateway :
    Device.schema.WellFormed ∧
      Device.gateway.Remote Device.longNamed
        (False ∨ Device.factory.CutsAtBlank Device.longNamed) ∧
      Memory.empty.Faultless ∧
      let stored := Device.gateway.store.run Memory.empty
      let reloaded := (Manager.new Device.gateway.path Device.gateway.defaults).load.run stored.store
      stored.value = .ok () ∧
        reloaded.value.manager.values.text (0 : Fin 5) = "the gateway in the north cellar" := by
  have faultless : Memory.empty.Faultless := ⟨rfl, rfl, rfl⟩
  obtain ⟨-, -, reloads⟩ := Manager.Remote.storable Device.wellFormed Device.remote_gateway
  obtain ⟨stored, -, -, texts⟩ := reloads Device.gateway.defaults Memory.empty faultless
  refine ⟨Device.wellFormed, Device.remote_gateway, faultless, stored, ?_⟩
  rw [(texts (0 : Fin 5)).1, Device.gateway_text]
  rfl

/-- A text that was cut right after a blank is in the table as it cannot be in the file, and the
next load has another one. -/
theorem Manager.Remote.not_storable_gateway :
    Device.schema.WellFormed ∧ Device.factory.defaults.Holdable ∧ Device.longNamed.Faultless ∧
      (∃ cut, Device.gateway.Remote Device.longNamed cut) ∧
      ¬ Device.gateway.values.Holdable ∧
      let stored := Device.gateway.store.run Device.longNamed
      stored.value = .ok () ∧
        (Device.factory.load.run stored.store).value.manager.values ≠ Device.gateway.values := by
  have faultless : Device.longNamed.Faultless := ⟨rfl, rfl, rfl⟩
  have idle : Device.factory.table.updating = false := rfl
  have samePath : Device.factory.path = Device.gateway.path := rfl
  obtain ⟨saved, reloaded⟩ := Manager.reload_faultless Device.wellFormed Device.gateway faultless
    idle samePath
  have broken : ¬ Device.gateway.values.Holdable := by
    intro holdable
    have isValue : IsValue (Device.gateway.values.text (0 : Fin 5)) :=
      FieldType.isValue_format_iff.2 (holdable (0 : Fin 5))
    rw [Device.gateway_text] at isValue
    exact absurd isValue (by decide)
  refine ⟨Device.wellFormed, by decide, faultless, ⟨_, Device.remote_gateway⟩, broken, saved, ?_⟩
  intro same
  rw [reloaded] at same
  exact broken ((Values.valuesFrom_reread_iff Device.wellFormed Device.factory.path).1 same)

end IniSettings
