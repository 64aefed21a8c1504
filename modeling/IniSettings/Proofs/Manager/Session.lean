import IniSettings.Proofs.Manager.Committing

/-!
# What is in the file after a commit

A run of one manager that loads once and then makes transactions, while files can be opened and
written at some times and not at others. A commit that answers with a change has put everything
into the file, whatever failed before. One that answers without a change has only found that the
table holds the values already: they are in the file too, unless a commit failed and none has
answered with a change since.
-/

namespace IniSettings
open Script

variable {schema : Schema}

/-- Whether values may be missing from the file after a commit, going by its answer. -/
def lostAfter (lost : Bool) : Except Abort (Except ConfigError Bool) → Bool
  | .ok (.ok true) => false
  | .ok (.ok false) => lost
  | _ => true

namespace Manager

/-- A manager that loaded a file of its schema, or none, and made transactions since. Between them
the memory may be made to fail or to work again, and the files stay as they are. -/
inductive Session : Manager schema → Memory → Bool → Prop where
  | load {manager : Manager schema} {memory : Memory} (fresh : manager.Fresh)
      (defaults : manager.defaults.Holdable) (readable : memory.faults.read = false)
      (file : memory.contents? manager.path = none ∨
        ∃ stored : Values schema, stored.Holdable ∧ stored.StoredAt manager.path memory) :
      Session (manager.load.run memory).value.manager (manager.load.run memory).store false
  | meanwhile {manager : Manager schema} {memory later : Memory} {lost : Bool}
      (before : Session manager memory lost) (files : later.files = memory.files) :
      Session manager later lost
  | transaction {manager : Manager schema} {memory : Memory} {lost : Bool}
      (before : Session manager memory lost) (origin : Origin) {requests : List (Request schema)}
      (holdable : ∀ request ∈ requests, request.Holdable) (ending : Ending) :
      Session ((manager.transaction origin requests ending).run memory).value
        ((manager.transaction origin requests ending).run memory).store
        (lostAfter lost ((manager.commit origin requests).run memory).value.result)

/-- What a session keeps: what can be stored, and that it is stored unless it was lost. -/
structure InStep (manager : Manager schema) (memory : Memory) (lost : Bool) : Prop where
  idle : manager.table.updating = false
  holdable : manager.values.Holdable
  defaults : manager.defaults.Holdable
  inFile : lost = false → InFile memory manager.path manager.defaults manager.values

variable {manager : Manager schema} {memory : Memory} {lost : Bool}

theorem inStep_load (wellFormed : schema.WellFormed) (fresh : manager.Fresh)
    (defaults : manager.defaults.Holdable) (readable : memory.faults.read = false)
    (file : memory.contents? manager.path = none ∨
      ∃ stored : Values schema, stored.Holdable ∧ stored.StoredAt manager.path memory) :
    (manager.load.run memory).value.manager.InStep (manager.load.run memory).store false := by
  obtain ⟨value, same⟩ := run_load fresh.idle memory
  rw [value, same]
  have inFile : ∃ values : Values schema, InFile memory manager.path manager.defaults values := by
    rcases file with absent | ⟨stored, holdable, there⟩
    · exact ⟨manager.defaults, defaults, .inr ⟨absent, rfl⟩⟩
    · exact ⟨stored, holdable, .inl there⟩
  obtain ⟨values, inFile⟩ := inFile
  rw [inFile.loadedFrom wellFormed readable]
  exact ⟨fresh.idle, inFile.holdable, defaults, fun _ => inFile⟩

theorem InStep.commit_inFile (wellFormed : schema.WellFormed)
    (inStep : manager.InStep memory lost) {origin : Origin} {requests : List (Request schema)}
    (holdable : ∀ request ∈ requests, request.Holdable) {changed : Bool}
    (answered : ((manager.commit origin requests).run memory).value.result = .ok (.ok changed))
    (kept : changed = true ∨ lost = false) :
    InFile ((manager.commit origin requests).run memory).store manager.path manager.defaults
      (requests.foldl Values.give manager.values) := by
  rcases commit_answer wellFormed inStep.idle answered with ⟨-, stored⟩ | ⟨rfl, same, store⟩
  · exact ⟨inStep.holdable.foldl_give holdable, .inl stored⟩
  · -- Nothing changed and nothing was stored, so all depends on what was in the file before.
    rw [same, store]
    exact inStep.inFile (kept.resolve_left Bool.false_ne_true)

theorem InStep.transaction (wellFormed : schema.WellFormed)
    (inStep : manager.InStep memory lost) (origin : Origin) {requests : List (Request schema)}
    (holdable : ∀ request ∈ requests, request.Holdable) (ending : Ending) :
    ((manager.transaction origin requests ending).run memory).value.InStep
      ((manager.transaction origin requests ending).run memory).store
      (lostAfter lost ((manager.commit origin requests).run memory).value.result) := by
  obtain ⟨value, store⟩ := run_transaction inStep.idle origin requests ending memory
  have left := commit_left inStep.idle origin requests memory
  rw [value, store]
  refine ⟨left.idle, ?_, ?_, fun safe => ?_⟩
  · rw [left.values]
    exact inStep.holdable.foldl_give holdable
  · rw [left.defaults]
    exact inStep.defaults
  · rw [left.values, left.path, left.defaults]
    cases answered : ((manager.commit origin requests).run memory).value.result with
    | error abort =>
      rw [answered] at safe
      cases safe
    | ok result =>
      rw [answered] at safe
      cases result with
      | error error => cases safe
      | ok changed =>
        refine inStep.commit_inFile wellFormed holdable answered ?_
        cases changed with
        | true => exact .inl rfl
        | false => exact .inr safe

theorem Session.inStep (wellFormed : schema.WellFormed) (session : manager.Session memory lost) :
    manager.InStep memory lost := by
  induction session with
  | load fresh defaults readable file => exact inStep_load wellFormed fresh defaults readable file
  | meanwhile before files ih =>
    exact ⟨ih.idle, ih.holdable, ih.defaults, fun safe => (ih.inFile safe).of_files files⟩
  | transaction before origin holdable ending ih =>
    exact ih.transaction wellFormed origin holdable ending

/-- At any time of a session, if a commit answers with a change, or without one while nothing is
lost, then a manager that is set up anew with the same defaults loads exactly the values that the
table holds, from the files as the commit left them. -/
theorem Session.committed (wellFormed : schema.WellFormed) (session : manager.Session memory lost)
    (origin : Origin) {requests : List (Request schema)}
    (holdable : ∀ request ∈ requests, request.Holdable) {changed : Bool}
    (answered : ((manager.commit origin requests).run memory).value.result = .ok (.ok changed))
    (kept : changed = true ∨ lost = false) (reading : Memory)
    (files : reading.files = ((manager.commit origin requests).run memory).store.files)
    (readable : reading.faults.read = false) {again : Manager schema} (fresh : again.Fresh)
    (samePath : again.path = manager.path) (sameDefaults : again.defaults = manager.defaults) :
    (again.load.run reading).value.result = .ok true ∧
      (again.load.run reading).value.manager.values =
        ((manager.commit origin requests).run memory).value.manager.values := by
  have inStep := session.inStep wellFormed
  have left := commit_left inStep.idle origin requests memory
  have inFile := (inStep.commit_inFile wellFormed holdable answered kept).of_files files
  rw [← samePath, ← sameDefaults] at inFile
  rw [(run_load fresh.idle reading).1, left.values]
  exact ⟨rfl, inFile.loadedFrom wellFormed readable⟩

end Manager

def Device.engrave : Request Device.schema :=
  .update (Fin.last 4) "S-2"

def Device.listen : Request Device.schema :=
  .unbox "@net:device:port" (.unsigned 81)

def Device.powered : Run Memory (Outcome Device.schema Bool) :=
  Device.factory.load.run Memory.empty

def Device.unsaved : Run Memory (Manager Device.schema) :=
  (Device.powered.value.manager.transaction .here [Device.engrave] .commit).run
    Device.powered.store.denyAllCreates

def Device.repaired : Memory :=
  Device.unsaved.store.stopFailing

theorem Device.holdable_engrave : Device.engrave.Holdable := by
  show Format.IsValue "S-2"
  decide

theorem Device.session_unsaved : Device.unsaved.value.Session Device.repaired true := by
  have fresh : Device.factory.Fresh := rfl
  have holdable : ∀ request ∈ [Device.engrave], request.Holdable :=
    List.forall_mem_singleton.2 Device.holdable_engrave
  have loaded : Device.powered.value.manager.Session Device.powered.store false :=
    .load fresh (by decide) rfl (.inl rfl)
  have denied : Device.powered.value.manager.Session Device.powered.store.denyAllCreates false :=
    loaded.meanwhile rfl
  exact (denied.transaction .here holdable .commit).meanwhile rfl

theorem Manager.Session.committed_repaired :
    Device.schema.WellFormed ∧ Device.unsaved.value.Session Device.repaired true ∧
      let committed := (Device.unsaved.value.commit .here [Device.listen]).run Device.repaired
      committed.value.result = .ok (.ok true) ∧
        (Device.factory.load.run committed.store).value.manager.values =
          committed.value.manager.values := by
  have holdable : ∀ request ∈ [Device.listen], request.Holdable :=
    List.forall_mem_singleton.2 trivial
  have answered : ((Device.unsaved.value.commit .here [Device.listen]).run Device.repaired
      ).value.result = .ok (.ok true) := by rfl
  have reread := Manager.Session.committed Device.wellFormed Device.session_unsaved .here holdable
    answered (.inl rfl) _ rfl rfl (Manager.fresh_new ⟨"device.ini"⟩ (Values.initial Device.schema))
    rfl rfl
  exact ⟨Device.wellFormed, Device.session_unsaved, answered, reread.2⟩

/-- The update that could not be stored is made again. It changes nothing in the table, so it is
answered without a change, and what it was to change is in no file. -/
theorem Manager.Session.retried_not_stored :
    Device.schema.WellFormed ∧ Device.unsaved.value.Session Device.repaired true ∧
      Device.engrave.Holdable ∧ Device.repaired.Faultless ∧
      let retried := (Device.unsaved.value.commit .here [Device.engrave]).run Device.repaired
      retried.value.result = .ok (.ok false) ∧ retried.store.contents? Device.factory.path = none ∧
        (Device.factory.load.run retried.store).value.manager.values ≠
          retried.value.manager.values := by
  refine ⟨Device.wellFormed, Device.session_unsaved, Device.holdable_engrave, ⟨rfl, rfl, rfl⟩,
    rfl, rfl, ?_⟩
  intro same
  have read := congrArg (fun values : Values Device.schema => values (4 : Fin 5)) same
  exact absurd read (by decide +kernel)

end IniSettings
