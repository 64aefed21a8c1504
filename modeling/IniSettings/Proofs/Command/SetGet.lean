import IniSettings.Proofs.Command.Argument
import IniSettings.Proofs.Manager.Remote

/-!
# Setting and getting

What is set by one process is got by the next one, from whatever file the first one started.
A command that is refused, or that finds the value there already, does nothing at all.
-/

namespace IniSettings
open Format Script Text

variable {schema : Schema}

namespace Command

section

variable {σ : Type} [Backend σ] {manager : Manager schema} {name typed : String} {store : σ}

/-- All that can come of setting a field. -/
inductive SetOutcome (manager : Manager schema) (name typed : String) (store : σ) :
    Run σ (Outcome schema (Except CommandError UnboxResult)) → Prop where
  | refused (error : CommandError) :
      SetOutcome manager name typed store ⟨⟨manager, .ok (.error error)⟩, store, []⟩
  | unchanged {field : schema.Field} (named : schema.named? name = some field)
      (holdable : (schema.spec field).type.Holdable (manager.values field))
      (shown : (schema.spec field).type.Shows typed (manager.values.text field)) :
      SetOutcome manager name typed store ⟨⟨manager, .ok (.ok .unchanged)⟩, store, []⟩
  | changed {field : schema.Field} {value : (schema.spec field).type.Value}
      {done : Run σ (Outcome schema (Except CommandError UnboxResult))}
      (named : schema.named? name = some field)
      (holdable : (schema.spec field).type.Holdable value)
      (shown : (schema.spec field).type.Shows typed ((schema.spec field).type.format value))
      (result : done.value.result = manager.verdict.map fun _ =>
        setResult manager.path name
          (((manager.holding (manager.values.set field value)).store.run store).value.map
            fun _ => .updated))
      (stored : done.store =
        ((manager.holding (manager.values.set field value)).store.run store).store) :
      SetOutcome manager name typed store done

theorem set_outcome (settled : manager.Settled) (name typed : String) (store : σ) :
    SetOutcome manager name typed store ((set manager name typed).run store) := by
  rw [set, Manager.boxed, Manager.field]
  cases named : schema.named? name with
  | none => exact .refused _
  | some field =>
    dsimp only [Except.map]
    cases typedIn : Argument.box (manager.values.box field).kind typed with
    | error error => exact .refused _
    | ok boxed =>
      dsimp only
      rw [run_bind]
      rcases Manager.run_unbox settled named boxed store with
        ⟨result, refused, done⟩ | ⟨value, opened, ⟨same, done⟩ | ⟨result, stored⟩⟩
      · rw [done]
        have rejected : setResult manager.path name (.ok result) = .error (.rejected name result) :=
          if_neg (by simp [refused])
        show SetOutcome manager name typed store
          ⟨⟨manager, .ok (setResult manager.path name (.ok result))⟩, store, []⟩
        rw [rejected]
        exact .refused _
      · rw [done]
        subst same
        exact .unchanged named (FieldType.holdable_of_unbox opened)
          (FieldType.shows_of_box typedIn opened)
      · refine .changed named (FieldType.holdable_of_unbox opened)
          (FieldType.shows_of_box typedIn opened) ?_ stored
        show Except.map _ _ = _
        rw [result]
        cases manager.verdict <;> rfl

end

theorem get_of_named {name : String} {field : schema.Field}
    (named : schema.named? name = some field) (manager : Manager schema) (json : Bool) :
    get manager name json = .ok (lines
      [if json then (manager.values.box field).toJson else manager.values.text field]) := by
  rw [get, Manager.field, named]
  cases json <;> rfl

theorem get_congr {name : String} {field : schema.Field}
    (named : schema.named? name = some field) {manager later : Manager schema}
    (same : later.values field = manager.values field) (json : Bool) :
    get later name json = get manager name json := by
  rw [get_of_named named, get_of_named named, Values.box, Values.text, same]
  rfl

variable {before again : Manager schema} {name typed : String} {memory : Memory}
  {done : Run Memory (Outcome schema (Except CommandError UnboxResult))}

theorem SetOutcome.reloads (outcome : SetOutcome before name typed memory done)
    (wellFormed : schema.WellFormed) (faultless : memory.Faultless)
    (loadable : ∀ field, (schema.spec field).type.Loadable (before.values field))
    (idle : again.table.updating = false) (samePath : again.path = before.path)
    (rereads : again.loadedFrom (memory.read before.path) = before.values)
    {result : UnboxResult} (accepted : done.value.result = .ok (.ok result)) :
    let reloaded := (again.load.run done.store).value
    reloaded.result = .ok true ∧ ∃ field, schema.named? name = some field ∧
      (schema.spec field).type.Shows typed (reloaded.manager.values.text field) ∧
      ∀ other, ¬ schema.Shares field other →
        (schema.spec other).type.Holdable (before.values other) →
        reloaded.manager.values other = before.values other := by
  cases outcome with
  | refused error => cases accepted
  | unchanged named holdable shown =>
    dsimp only
    rw [(Manager.run_load idle memory).1, samePath, rereads]
    exact ⟨rfl, _, named, shown, fun _ _ _ => rfl⟩
  | @changed field value _ named holdable shown _ stored =>
    let final := before.values.set field value
    -- Some of the others may be values that the file cannot hold, but none of them breaks its line.
    have oneLine : ∀ other, '\n' ∉ (final.text other).toList := fun other =>
      (Values.forall_set loadable holdable.loadable other).one_line
    have kept := Values.valuesFrom_reread_field_iff wellFormed oneLine again
    obtain ⟨-, reloads⟩ :=
      Manager.reload_faultless wellFormed (before.holding final) faultless idle samePath
    rw [stored, reloads]
    refine ⟨rfl, field, named, ?_, fun other apart holds => ?_⟩
    · have given : final field = value := before.values.set_same field value
      have same := ((kept field).2 (given.symm ▸ holdable)).trans given
      have text : (again.valuesFrom final.reread.document).text field =
          (schema.spec field).type.format value := congrArg (schema.spec field).type.format same
      show (schema.spec field).type.Shows typed ((again.valuesFrom final.reread.document).text field)
      rw [text]
      exact shown
    · have same : final other = before.values other :=
        Values.set_other _ _ _ apart
      exact ((kept other).2 (same.symm ▸ holds)).trans same

theorem SetOutcome.quiet (outcome : SetOutcome before name typed memory done)
    (faultless : memory.Faultless)
    (nothing : done.value.result = .ok (.ok .unchanged) ∨
      ∃ error, done.value.result = .ok (.error error)) :
    done.store = memory ∧ done.trace = [] ∧ done.value.manager = before := by
  cases outcome with
  | refused error => exact ⟨rfl, rfl, rfl⟩
  | unchanged named holdable shown => exact ⟨rfl, rfl, rfl⟩
  | @changed field value _ _ _ _ result _ =>
    -- The change was stored, so the answer is that, unless the observer gave up.
    have saved := (Manager.store_faultless (before.holding (before.values.set field value))
      faultless).1
    rw [saved] at result
    rw [result] at nothing
    cases verdict : before.verdict with
    | error abort =>
      rw [verdict] at nothing
      rcases nothing with same | ⟨error, same⟩ <;> cases same
    | ok _ =>
      rw [verdict] at nothing
      rcases nothing with same | ⟨error, same⟩ <;> cases same

/-- A manager that is set up anew and loads the file after a field was set shows what was typed,
and of the fields in other members what was shown before, as far as the file can hold it. If
nothing was set, no call was made. -/
theorem get_after_set (wellFormed : schema.WellFormed) {manager again : Manager schema}
    (fresh : manager.Fresh) (freshAgain : again.Fresh) (samePath : again.path = manager.path)
    (sameDefaults : again.defaults = manager.defaults) (holdable : manager.defaults.Holdable)
    (faultless : memory.Faultless) (name typed : String) :
    let loaded := manager.load.run memory
    let before := loaded.value.manager
    let done := (set before name typed).run loaded.store
    let reloaded := again.load.run done.store
    let after := reloaded.value.manager
    loaded.value.result = .ok true ∧
      (∀ result, done.value.result = .ok (.ok result) →
        reloaded.value.result = .ok true ∧
          ∃ field printed, schema.named? name = some field ∧
            get after name false = .ok (lines [printed]) ∧
            (schema.spec field).type.Shows typed printed ∧
            ∀ otherName other, schema.named? otherName = some other →
              ¬ schema.Shares field other →
              (schema.spec other).type.Holdable (before.values other) →
              ∀ json, get after otherName json = get before otherName json) ∧
      ((done.value.result = .ok (.ok .unchanged) ∨
          ∃ error, done.value.result = .ok (.error error)) →
        done.store = memory ∧ done.trace = [] ∧ done.value.manager.values = before.values) := by
  intro loaded before done reloaded after
  obtain ⟨value, same⟩ := Manager.run_load fresh.idle memory
  change loaded.value = _ at value
  have loads : before = manager.put (manager.loadedFrom (memory.read manager.path)) := by
    rw [show before = loaded.value.manager from rfl, value]
  have settled : before.Settled := loads ▸ fresh.settled.put _
  have unread : manager.Fed False := fresh.fed holdable
  have fed := unread.load memory
  have rereads : again.loadedFrom (memory.read before.path) = before.values := by
    rw [loads]
    exact fresh.loadedFrom_eq freshAgain sameDefaults _
  have outcome : SetOutcome before name typed memory done := by
    rw [← same]
    exact set_outcome settled name typed loaded.store
  have samePath : again.path = before.path := by
    rw [loads]
    exact samePath
  refine ⟨by rw [value], fun result accepted => ?_, fun nothing => ?_⟩
  · obtain ⟨valid, field, named, shown, others⟩ := outcome.reloads wellFormed faultless
      (fun field => (fed.taken field).loadable) freshAgain.idle samePath rereads accepted
    refine ⟨valid, field, _, named, get_of_named named after false, shown, ?_⟩
    intro otherName other otherNamed apart holds json
    exact get_congr otherNamed (others other apart holds) json
  · obtain ⟨stored, trace, left⟩ := outcome.quiet faultless nothing
    exact ⟨stored, trace, congrArg Manager.values left⟩

end Command

def Device.damaged : Memory :=
  Memory.empty.insert Device.factory.path (Utf8.encode "[device\nport 82\n")

def Device.ported : Run Memory (Outcome Device.schema (Except CommandError UnboxResult)) :=
  (Command.set (Device.factory.load.run Device.damaged).value.manager "@net:device:port" "+081").run
    (Device.factory.load.run Device.damaged).store

theorem Command.get_after_set_device :
    Device.schema.WellFormed ∧ Device.factory.Fresh ∧ Device.factory.defaults.Holdable ∧
      Device.damaged.Faultless ∧ Device.ported.value.result = .ok (.ok .updated) ∧
      ∃ printed,
        Command.get (Device.factory.load.run Device.ported.store).value.manager
          "@net:device:port" false = .ok (Command.lines [printed]) ∧
        Device.port.type.Shows "+081" printed := by
  have fresh : Device.factory.Fresh := rfl
  have holdable : Device.factory.defaults.Holdable := by decide
  have faultless : Device.damaged.Faultless := ⟨rfl, rfl, rfl⟩
  have accepted : Device.ported.value.result = .ok (.ok .updated) := by rfl
  obtain ⟨-, gets, -⟩ := Command.get_after_set Device.wellFormed fresh fresh rfl rfl holdable
    faultless "@net:device:port" "+081"
  obtain ⟨-, field, printed, named, got, shown, -⟩ := gets .updated accepted
  obtain rfl : (1 : Fin 5) = field := Option.some.inj named
  exact ⟨Device.wellFormed, fresh, holdable, faultless, accepted, printed, got, shown⟩

/-- A field that shares the member of the one that is set shows the new value. -/
theorem Command.get_alias_after_set :
    let device := Manager.new ⟨"device.ini"⟩ (Values.initial Device.aliased)
    let before := (device.load.run Memory.empty).value.manager
    let done := (set before "@net:device:port" "81").run Memory.empty
    let after := (device.load.run done.store).value.manager
    Device.aliased.WellFormed ∧ device.Fresh ∧ device.defaults.Holdable ∧
      Memory.empty.Faultless ∧ done.value.result = .ok (.ok .updated) ∧
      Device.aliased.named? "@net:device:port" = some (0 : Fin 2) ∧
      Device.aliased.named? "@sys:device:listening" = some (1 : Fin 2) ∧
      before.values.Holdable ∧
      get before "@sys:device:listening" false = .ok "8080\n" ∧
      get after "@sys:device:listening" false = .ok "81\n" := by
  intro device before done after
  refine ⟨Device.wellFormed_aliased, rfl, by decide, ⟨rfl, rfl, rfl⟩, ?_, rfl, rfl, by decide, ?_,
    ?_⟩ <;> decide +kernel

end IniSettings
